import Fieldwise.Proofs.Url.Bracketed
import Fieldwise.Proofs.Url.Reference

/-!
Contract: addresses of the web that are a host and nothing else.

Owns: what is known of the hosts of the library that reads addresses, how a host is found
between the slashes of an address, with and without brackets, and the agreement of the rules
on web addresses and on address literals.

Does **not** own: which hosts there are (`Fieldwise.Proofs.Url.Dotted`,
`Fieldwise.Proofs.Url.Bracketed`), and user information, ports and what follows them.
-/

set_option autoImplicit false

namespace Fieldwise.Url

open Format

/-! ## The library -/

/-- The authorities of special addresses without user information are those of the URL
standard, for some mapping of the names of hosts to ASCII. -/
def Machine.ReadsHosts
    (machine : Machine)
    (domain? : List Char → Option (List Char)) :
    Prop :=
  ∀ chars, '@' ∉ chars → machine.authority true chars = isAuthority domain? true chars

theorem plainMachine_readsHosts : plainMachine.ReadsHosts decodedDomain? :=
  fun _ _ => rfl

theorem toLower_ne_of_isDigit {char : Char} (digit : char.isDigit = true) :
    char.toLower ≠ 'x' := by
  have each : "0123456789".toList.all (fun char => decide (char.toLower ≠ 'x')) = true := by
    decide
  exact of_decide_eq_true (Text.passes_of_isDigit each digit)

theorem decodedDomain?_leavesDigits : LeavesDigits decodedDomain? := by
  intro chars given
  have unescaped : chars.contains '%' = false := by
    rw [← Bool.not_eq_true, List.contains_iff_mem]
    intro member
    rcases given '%' member with digit | dot
    · exact absurd digit (by decide)
    · exact absurd dot (by decide)
  have labels : ∀ label ∈ chars.splitOn '.', label.map Char.toLower ≠ "xn--".toList := by
    intro label inChars same
    obtain ⟨first, rest, rfl, lower, -⟩ := List.map_eq_cons_iff.1 same
    have within : (first :: rest) <:+: chars := (Text.of_mem_splitOn inChars).2
    have member : first ∈ chars := within.subset (by simp)
    rcases given first member with digit | rfl
    · exact toLower_ne_of_isDigit digit lower
    · exact absurd lower (by decide)
  have kept :
      (!(chars.splitOn '.').any fun label => label.map Char.toLower = "xn--".toList) = true := by
    rw [Bool.not_eq_true', List.any_eq_false]
    intro label inChars
    simpa using labels label inChars
  rw [decodedDomain?, unescaped]
  exact Option.filter_some_pos kept

section Hosts

variable {machine : Machine} {domain? : List Char → Option (List Char)}

/-! ## The host of an authority -/

/-- A visible character that neither ends an authority nor ends user information. -/
def IsHostCharacter (char : Char) : Prop :=
  ¬ char ≤ ' ' ∧ char ∉ ['/', '\\', '?', '#', '@']

theorem endsAuthority_eq_false {char : Char} (inHost : IsHostCharacter char) :
    endsAuthority true char = false := by
  obtain ⟨-, other⟩ := inHost
  simp only [List.mem_cons, List.not_mem_nil, or_false, not_or] at other
  simp [endsAuthority, other]

theorem splitUser_eq {chars : List Char} (unnamed : '@' ∉ chars) :
    splitUser chars = (none, chars) := by
  rw [splitUser, List.splitOn_eq_singleton unnamed]
  rfl

theorem isAuthority_host
    {host : List Char}
    (inHost : ∀ char ∈ host, IsHostCharacter char) :
    isAuthority domain? true (host ++ ['/']) = isHostPort domain? true false host := by
  have stays : ∀ char ∈ host, (!endsAuthority true char) = true := by
    intro char member
    rw [endsAuthority_eq_false (inHost char member), Bool.not_false]
  have authority : (host ++ ['/']).takeWhile (fun char => !endsAuthority true char) = host := by
    rw [List.takeWhile_append_of_pos stays]
    exact List.append_nil host
  have unnamed : '@' ∉ host := fun member => (inHost '@' member).2 (by decide)
  rw [isAuthority, authority, splitUser_eq unnamed]

/-- An address of the web that is a text between slashes is accepted exactly if the text is
a host, perhaps with a port. -/
theorem isReference_host
    {reader : AddressReader}
    (follows : reader.FollowsStandard machine)
    (hosts : machine.ReadsHosts domain?)
    {host : List Char}
    (written : host ≠ [])
    (inHost : ∀ char ∈ host, IsHostCharacter char) :
    isReference reader ("http://".toList ++ host ++ ['/']) =
      isHostPort domain? true false host := by
  have unbroken : ∀ char ∈ "http://".toList ++ host, char ∉ breaks := by
    intro char member
    rcases List.mem_append.1 member with scheme | inside
    · have visible : ∀ other ∈ "http://".toList, other ∉ breaks := by simp [breaks]
      exact visible char scheme
    · intro isBreak
      have small : ∀ other ∈ breaks, other ≤ ' ' := by simp [breaks]
      exact (inHost char inside).1 (small char isBreak)
  have counts : relevant ("http://".toList ++ host ++ ['/']) =
      "http:".toList ++ ('/' :: '/' :: (host ++ ['/'])) :=
    relevant_append_slash ("http://".toList ++ host) (by simp) unbroken []
  have double : ∀ char ∈ (host ++ ['/']).head?, isSlash char = false := by
    obtain ⟨first, more, rfl⟩ := List.exists_cons_of_ne_nil written
    intro char isFirst
    obtain rfl : first = char := by simpa using isFirst
    obtain ⟨-, other⟩ := inHost first (by simp)
    simp only [List.mem_cons, List.not_mem_nil, or_false, not_or] at other
    simp [isSlash, other]
  have unnamed : '@' ∉ host ++ ['/'] := by
    intro member
    rcases List.mem_append.1 member with inside | slash
    · exact (inHost '@' inside).2 (by decide)
    · exact absurd slash (by decide)
  rw [isReference_of_head? follows (by simp) (by simp), counts, machine.run_web,
    Machine.isSome_accept, machine.ignoreSlashes_server double, hosts _ unnamed,
    isAuthority_host inHost]

/-! ## The host of a host with its port -/

theorem isHostPort_of_splitHost
    {host : List Char}
    (written : host ≠ [])
    (whole : splitHost false host = (host, [])) :
    isHostPort domain? true false host = isHost domain? host := by
  simp [isHostPort, whole, written, isPort]

/-- One character of a host: each one is, but for a colon outside brackets. -/
theorem splitHost_cons
    {char : Char} {inside : Bool}
    (goesOn : char ≠ ':' ∨ inside = true)
    (rest : List Char) :
    splitHost inside (char :: rest) =
      let stillInside := if char = '[' then true else if char = ']' then false else inside
      (char :: (splitHost stillInside rest).1, (splitHost stillInside rest).2) := by
  have noEnd : ¬ (decide (char = ':') && !inside) = true := by
    rcases goesOn with other | rfl
    · simp [other]
    · simp
  rw [splitHost, if_neg noEnd]

theorem splitHost_of_colon_not_mem
    {host : List Char}
    (plain : ':' ∉ host)
    (inside : Bool) :
    splitHost inside host = (host, []) := by
  induction host generalizing inside with
  | nil => rfl
  | cons char rest inductionHypothesis =>
      rw [List.mem_cons, not_or] at plain
      simp only [splitHost_cons (.inl (Ne.symm plain.1)), inductionHypothesis plain.2]

/-- Inside brackets, a colon does not end a host. -/
theorem splitHost_inside
    {content : List Char}
    (opened : ']' ∉ content) :
    splitHost true (content ++ [']']) = (content ++ [']'], []) := by
  induction content with
  | nil => rfl
  | cons char rest inductionHypothesis =>
      rw [List.mem_cons, not_or] at opened
      have stays : (if char = '[' then true else if char = ']' then false else true) = true := by
        simp [Ne.symm opened.1]
      simp only [List.cons_append, splitHost_cons (.inr rfl), stays,
        inductionHypothesis opened.2]

/-- A host in brackets is accepted exactly if what stands between them is a literal of
groups. -/
theorem isHostPort_bracketed
    {content : List Char}
    (opened : ']' ∉ content) :
    isHostPort domain? true false ('[' :: content ++ [']']) = true ↔
      IsGroupedLiteral content := by
  have whole : splitHost false ('[' :: content ++ [']']) = ('[' :: content ++ [']'], []) := by
    have opening : '[' ≠ ':' := by decide
    simp only [List.cons_append, splitHost_cons (.inl opening), reduceIte,
      splitHost_inside opened]
  have inside : insideBrackets? ('[' :: content ++ [']']) = some content := by
    simp [insideBrackets?]
  rw [isHostPort_of_splitHost (by simp) whole, isHost, inside, ← isBracketedAddress_eq_true_iff]
  rfl

/-! ## Literals as hosts -/

theorem IsHostCharacter.of_isAddressCharacter
    {char : Char}
    (given : IsAddressCharacter char) :
    IsHostCharacter char := by
  constructor
  · have visible (least : Char) (above : ¬ least ≤ ' ') (atLeast : least ≤ char) :
        ¬ char ≤ ' ' :=
      fun small => above (Char.le_trans atLeast small)
    rcases given with (digit | lower | upper) | rfl | rfl
    · exact visible '0' (by decide) digit.1
    · exact visible 'a' (by decide) lower.1
    · exact visible 'A' (by decide) upper.1
    · decide
    · decide
  · intro mark
    have none : ∀ other ∈ ['/', '\\', '?', '#', '@'], ¬ IsAddressCharacter other := by
      simp [IsAddressCharacter, Text.IsHexDigit]
    exact none char mark given

theorem isReference_bracketed
    {reader : AddressReader}
    (follows : reader.FollowsStandard machine)
    (hosts : machine.ReadsHosts domain?)
    {content : List Char}
    (given : ∀ char ∈ content, IsAddressCharacter char) :
    isReference reader ("http://".toList ++ ('[' :: content ++ [']']) ++ ['/']) = true ↔
      IsGroupedLiteral content := by
  have opened : ']' ∉ content := fun member => absurd (given ']' member) (by decide)
  have inHost : ∀ char ∈ '[' :: content ++ [']'], IsHostCharacter char := by
    intro char member
    simp only [List.cons_append, List.mem_cons, List.mem_append, List.not_mem_nil,
      or_false] at member
    rcases member with rfl | inside | rfl
    · exact ⟨by decide, by decide⟩
    · exact .of_isAddressCharacter (given char inside)
    · exact ⟨by decide, by decide⟩
  rw [isReference_host follows hosts (by simp) inHost, isHostPort_bracketed opened]

theorem isReference_dotted
    {reader : AddressReader}
    (follows : reader.FollowsStandard machine)
    (hosts : machine.ReadsHosts domain?)
    (leaves : LeavesDigits domain?)
    {content : List Char}
    (literal : IsDottedLiteral content) :
    isReference reader ("http://".toList ++ content ++ ['/']) = true := by
  have inHost : ∀ char ∈ content, IsHostCharacter char :=
    fun char member => .of_isAddressCharacter (literal.isAddressCharacter member)
  obtain ⟨written, plain⟩ := literal.isPart
  rw [isReference_host follows hosts written inHost,
    isHostPort_of_splitHost written (splitHost_of_colon_not_mem plain false)]
  exact isHost_of_isDottedLiteral leaves literal

end Hosts

end Fieldwise.Url

/-! ## The report -/

namespace Fieldwise.Validator

open Format Url

variable (config : Config) (reachability : Reachability) (book : RuleBook)

/-- **The rules on web addresses and on address literals agree on hosts.** Of the texts
with the characters of literals, those that are accepted between brackets as the host of an
address are the literals with a colon, which are those of groups. Each literal without a
colon is accepted as a host without brackets. The library that reads addresses follows the
URL standard and has its hosts, and its mapping of names to ASCII leaves digits alone. -/
theorem address_rules_agree_on_hosts
    [libraries : Libraries]
    {machine : Machine}
    {domain? : List Char → Option (List Char)}
    (follows : libraries.addresses.FollowsStandard machine)
    (hosts : machine.ReadsHosts domain?)
    (leaves : LeavesDigits domain?)
    (lookup : String → Option Value)
    (name : String)
    (parameter : Option Parameter) :
    let validator := Builder.assemble { config, reachability, predicates := [], rules := book }
    let errors (keyword : Keyword) (content : String) :=
      (validator.validate
        ⟨[⟨name, .text content, .registered [⟨.builtIn keyword, parameter⟩]⟩], lookup⟩).errors
    (∀ content : String,
      (∀ char ∈ content.toList, IsAddressCharacter char) →
        (errors .url ("http://[" ++ content ++ "]/") = [] ↔
          errors .ipFormat content = [] ∧ ':' ∈ content.toList) ∧
        (errors .url ("http://[" ++ content ++ "]/") = [] ↔
          IsGroupedLiteral content.toList)) ∧
    (∀ content : String,
      ':' ∉ content.toList → errors .ipFormat content = [] →
        errors .url ("http://" ++ content ++ "/") = []) := by
  intro validator errors
  have reads (content : String) :
      errors .url content = [] ↔ isReference libraries.addresses content.toList = true :=
    (errors_of_url config reachability book lookup name content parameter).1
  have accepts (content : String) :
      errors .ipFormat content = [] ↔ IsAddressLiteral content.toList :=
    (errors_of_ipFormat config reachability book lookup name content parameter).1
  constructor
  · intro content given
    have characters : ("http://[" ++ content ++ "]/").toList =
        "http://".toList ++ ('[' :: content.toList ++ [']']) ++ ['/'] := by
      simp [String.toList_append]
    rw [reads, accepts, ← isGroupedLiteral_iff, characters,
      isReference_bracketed follows hosts given]
    exact ⟨Iff.rfl, Iff.rfl⟩
  · intro content plain accepted
    have dotted : IsDottedLiteral content.toList :=
      ((accepts content).1 accepted).resolve_right fun grouped =>
        plain ((isGroupedLiteral_iff content.toList).1 grouped).2
    rw [reads, String.toList_append, String.toList_append]
    exact isReference_dotted follows hosts leaves dotted

/-- Eight groups of which the last two are dotted, and a dotted literal. -/
theorem literals_are_hosts :
    let errors (keyword : Keyword) (content : String) :=
      (Validator.default.validate
        ⟨[⟨"Link", .text content, .registered [⟨.builtIn keyword, none⟩]⟩],
          fun _ => none⟩).errors
    AddressReader.plain.FollowsStandard plainMachine ∧
    plainMachine.ReadsHosts decodedDomain? ∧
    LeavesDigits decodedDomain? ∧
    (errors .url ("http://[" ++ "1:2:3:4:5:6:7.8.9.0" ++ "]/") = [] ↔
      errors .ipFormat "1:2:3:4:5:6:7.8.9.0" = [] ∧ ':' ∈ "1:2:3:4:5:6:7.8.9.0".toList) ∧
    errors .url ("http://" ++ "127.0.0.1" ++ "/") = [] := by
  intro errors
  have follows := AddressReader.plain_followsStandard
  have hosts := plainMachine_readsHosts
  have leaves := decodedDomain?_leavesDigits
  obtain ⟨bracketed, plain⟩ := address_rules_agree_on_hosts Config.default
    Reachability.offline Table.empty follows hosts leaves (fun _ => none) "Link" none
  have accepted : errors .ipFormat "127.0.0.1" = [] :=
    (errors_of_ipFormat Config.default Reachability.offline Table.empty (fun _ => none) "Link"
      "127.0.0.1" none).1.2 (by decide)
  have characters : ∀ char ∈ "1:2:3:4:5:6:7.8.9.0".toList, IsAddressCharacter char := by
    simp [IsAddressCharacter, Text.IsHexDigit]
  exact ⟨follows, hosts, leaves, (bracketed "1:2:3:4:5:6:7.8.9.0" characters).1, plain "127.0.0.1" (by decide) accepted⟩

end Fieldwise.Validator
