import Fieldwise.Proofs.Format.Email
import Fieldwise.Proofs.Lists

/-!
Contract: the texts that the rule on web addresses accepts, by how they begin.

Owns: the characters that count, the scheme at the start of a text, what is known of the
library that reads addresses, what is left to decide for references below a server and for
addresses of servers, and the report of the rule.

Does **not** own: the authority behind two slashes (`Fieldwise.Proofs.Url.Authority`), of
which nothing is used here but that it may be the name of the own machine.

A reference is told by the first character as it stands, while an address is read without
the characters that do not count. The two agree since a slash at the start is never
stripped, and nothing that begins with one has a scheme.
-/

set_option autoImplicit false

namespace Fieldwise.Url

open Format

/-! ## The characters that count -/

/-- Tabs and line ends, which count nowhere. -/
def breaks : List Char :=
  ['\t', '\n', '\r']

def withoutBreaks (chars : List Char) : List Char :=
  chars.filter fun char => char ∉ breaks

/-- A text between its margins, which are all of the controls and spaces at its two ends. -/
structure Margins (chars front core back : List Char) : Prop where
  cut : chars = front ++ core ++ back
  frontMargin : ∀ char ∈ front, char ≤ ' '
  backMargin : ∀ char ∈ back, char ≤ ' '
  starts : ∀ char ∈ core.head?, ¬ char ≤ ' '
  ends : ∀ char ∈ core.getLast?, ¬ char ≤ ' '

theorem isStripped_eq_true_iff (char : Char) : isStripped char = true ↔ char ≤ ' ' :=
  decide_eq_true_iff

theorem isStripped_eq_false_iff (char : Char) : isStripped char = false ↔ ¬ char ≤ ' ' :=
  decide_eq_false_iff_not

theorem relevant_eq (chars : List Char) :
    relevant chars = withoutBreaks ((chars.dropWhile isStripped).rdropWhile isStripped) := by
  refine List.filter_congr fun char _ => ?_
  simp [isIgnored, breaks, Bool.or_assoc]

theorem not_le_of_head?_dropWhile
    (chars : List Char)
    {char : Char}
    (first : (chars.dropWhile isStripped).head? = some char) :
    ¬ char ≤ ' ' := by
  have kept := List.head?_dropWhile_not isStripped chars
  rw [first] at kept
  exact (isStripped_eq_false_iff char).1 kept

/-- Each text has margins, and what counts of it is what counts between them. -/
theorem exists_margins (chars : List Char) :
    ∃ front core back, Margins chars front core back ∧ relevant chars = withoutBreaks core := by
  let later := chars.dropWhile isStripped
  have cut : later.rdropWhile isStripped ++ later.rtakeWhile isStripped = later :=
    List.rdropWhile_append_rtakeWhile
  refine ⟨chars.takeWhile isStripped, later.rdropWhile isStripped, later.rtakeWhile isStripped,
    ⟨?_, ?_, ?_, ?_, ?_⟩, relevant_eq chars⟩
  · rw [List.append_assoc, cut, List.takeWhile_append_dropWhile]
  · exact fun char member => (isStripped_eq_true_iff char).1 (List.mem_takeWhile_imp member)
  · exact fun char member => (isStripped_eq_true_iff char).1 (List.mem_rtakeWhile_imp member)
  · intro char first
    apply not_le_of_head?_dropWhile chars
    rw [← show later = chars.dropWhile isStripped from rfl, ← cut, List.head?_append, first]
    rfl
  · intro char last
    apply not_le_of_head?_dropWhile later.reverse
    rw [← List.head?_reverse] at last
    simpa [List.rdropWhile] using last

/-- A slash ends the margin in front of it and starts no margin behind it. -/
theorem relevant_append_slash
    (front : List Char)
    (starts : ∀ char ∈ (front ++ ['/']).head?, ¬ char ≤ ' ')
    (unbroken : ∀ char ∈ front, char ∉ breaks)
    (rest : List Char) :
    relevant (front ++ '/' :: rest) =
      front ++ '/' :: withoutBreaks (rest.rdropWhile isStripped) := by
  have flush : (front ++ '/' :: rest).dropWhile isStripped = front ++ '/' :: rest := by
    apply dropWhile_eq_self_of_head?
    intro first isFirst
    apply (isStripped_eq_false_iff first).2
    apply starts
    simpa [List.head?_append] using isFirst
  have whole : withoutBreaks front = front := by
    simpa [withoutBreaks, List.filter_eq_self] using unbroken
  rw [relevant_eq, flush, rdropWhile_append_cons rfl, withoutBreaks, List.filter_append,
    List.filter_cons_of_pos (by decide), ← withoutBreaks, ← withoutBreaks, whole]

theorem relevant_slash (rest : List Char) :
    relevant ('/' :: rest) = '/' :: withoutBreaks (rest.rdropWhile isStripped) :=
  relevant_append_slash [] (by simp) (by simp) rest

/-- What is left when the margin at the end is dropped starts as before. -/
theorem head?_of_rdropWhile
    {chars : List Char} {first : Char}
    (left : (withoutBreaks (chars.rdropWhile isStripped)).head? = some first) :
    (withoutBreaks chars).head? = some first := by
  have begins : withoutBreaks (chars.rdropWhile isStripped) <+: withoutBreaks chars :=
    (List.rdropWhile_prefix isStripped chars).filter _
  obtain ⟨more, cut⟩ := List.head?_eq_some_iff.1 left
  obtain ⟨dropped, whole⟩ := begins
  rw [← whole, cut]
  rfl

/-! ## The scheme -/

def IsSchemeCharacter (char : Char) : Prop :=
  IsLetterOrDigit char ∨ char ∈ ['+', '-', '.']

/-- A letter and further scheme characters, up to a colon. -/
def BeginsWithScheme (chars : List Char) : Prop :=
  ∃ letter others rest,
    chars = letter :: others ++ ':' :: rest ∧ IsLetter letter ∧
      ∀ char ∈ others, IsSchemeCharacter char

theorem isSchemeChar_eq_true_iff (char : Char) :
    isSchemeChar char = true ↔ IsSchemeCharacter char := by
  simp [isSchemeChar, IsSchemeCharacter, isAlphanum_eq_true_iff, or_assoc]

theorem beginsWithScheme_of_splitScheme?
    {chars rest : List Char} {scheme : String}
    (found : splitScheme? chars = some (scheme, rest)) :
    BeginsWithScheme chars := by
  cases chars with
  | nil => cases found
  | cons first more =>
      simp only [splitScheme?] at found
      split at found
      · rename_i alpha
        have letter := (isAlpha_eq_true_iff first).1 alpha
        have passes : isSchemeChar first = true :=
          (isSchemeChar_eq_true_iff first).2 (.inl (.inl letter))
        rw [List.dropWhile_cons_of_pos passes] at found
        split at found
        · rename_i after colon
          refine ⟨first, more.takeWhile isSchemeChar, after, ?_, letter, ?_⟩
          · rw [List.cons_append, ← colon, List.takeWhile_append_dropWhile]
          · intro char member
            exact (isSchemeChar_eq_true_iff char).1 (List.mem_takeWhile_imp member)
        · cases found
      · cases found

/-! ## The states of the parser -/

namespace Machine

variable (machine : Machine)

theorem isSome_accept (accepted : Bool) (address : Base) :
    (accept accepted address).isSome = accepted := by
  cases accepted <;> rfl

/-- A complete address has a scheme. -/
theorem exists_splitScheme?_of_run
    {chars : List Char}
    (accepted : (machine.run none chars).isSome = true) :
    ∃ scheme rest, splitScheme? chars = some (scheme, rest) := by
  cases found : splitScheme? chars with
  | some cut => exact ⟨cut.1, cut.2, rfl⟩
  | none =>
      rw [run, found] at accepted
      cases accepted

/-- What begins with a slash has no scheme, and is no complete address. -/
theorem run_slash (rest : List Char) : machine.run none ('/' :: rest) = none :=
  rfl

/-- Behind the scheme of the web, all slashes in front of the authority are passed over. -/
theorem run_web (rest : List Char) :
    machine.run none ("http:".toList ++ rest) =
      accept (machine.ignoreSlashes rest) ⟨"http", false⟩ :=
  rfl

/-- What begins with a slash is a relative reference below an address of the web. -/
theorem run_below_web (rest : List Char) :
    machine.run (some ⟨"http", false⟩) ('/' :: rest) =
      accept (machine.relative true ('/' :: rest)) ⟨"http", false⟩ :=
  rfl

/-- One slash leads to a path, which is never refused. -/
theorem relative_path
    {rest : List Char}
    (single : ∀ char ∈ rest.head?, isSlash char = false) :
    machine.relative true ('/' :: rest) = true := by
  cases rest with
  | nil => rfl
  | cons second rest =>
      have other : isSlash second = false := single second rfl
      have plain : second ≠ '/' := by
        rintro rfl
        cases other
      simp [relative, other, plain]

/-- Two slashes lead to an authority where no third one follows. -/
theorem relative_server
    {rest : List Char}
    (double : ∀ char ∈ rest.head?, isSlash char = false) :
    machine.relative true ('/' :: '/' :: rest) = machine.authority true rest := by
  have flush : rest.head?.any isSlash = false := by
    cases rest with
    | nil => rfl
    | cons third rest => exact double third rfl
  simp [relative, isSlash, flush]

theorem ignoreSlashes_server
    {rest : List Char}
    (double : ∀ char ∈ rest.head?, isSlash char = false) :
    machine.ignoreSlashes ('/' :: '/' :: rest) = machine.authority true rest := by
  rw [ignoreSlashes, List.dropWhile_cons_of_pos rfl, List.dropWhile_cons_of_pos rfl,
    dropWhile_eq_self_of_head? double]

end Machine

/-! ## The library -/

/-- A library follows the URL standard: the characters that do not count aside, it accepts
what the states of the parser accept. A reference is read below an address by what the
references below that address depend on. -/
structure AddressReader.FollowsStandard (reader : AddressReader) (machine : Machine) : Prop where
  parse : ∀ chars,
    (reader.parse? chars).isSome = (machine.run none (relevant chars)).isSome
  join : ∀ {chars : List Char} {address : reader.Address} {base : Base},
    reader.parse? chars = some address → machine.run none (relevant chars) = some base →
      ∀ reference,
        (reader.join? address reference).isSome =
          (machine.run (some base) (relevant reference)).isSome

theorem AddressReader.plain_followsStandard : plain.FollowsStandard plainMachine where
  parse _ := rfl
  join := by
    intro chars address base parsed ran reference
    obtain rfl : address = base := Option.some.inj (parsed.symm.trans ran)
    rfl

/-! ## References -/

section References

variable {reader : AddressReader} {machine : Machine}
  (follows : reader.FollowsStandard machine)

include follows

/-- Without a slash at the start, only a complete address is accepted. -/
theorem isReference_of_head?
    {chars : List Char}
    (written : chars ≠ [])
    (start : chars.head? ≠ some '/') :
    isReference reader chars = (machine.run none (relevant chars)).isSome := by
  simp [isReference, written, start, follows.parse]

/-- References below a server are taken below an address of the web. -/
theorem exists_relativeBase
    (localhost : machine.authority true "localhost/".toList = true) :
    ∃ base, relativeBase? reader = some base ∧
      ∀ reference,
        (reader.join? base reference).isSome =
          (machine.run (some ⟨"http", false⟩) (relevant reference)).isSome := by
  have ran : machine.run none (relevant "http://localhost/".toList) = some ⟨"http", false⟩ := by
    have accepted : machine.ignoreSlashes "//localhost/".toList = true := localhost
    have counts : relevant "http://localhost/".toList =
        "http:".toList ++ "//localhost/".toList := by
      decide
    rw [counts, machine.run_web, accepted]
    rfl
  have parsed : (reader.parse? "http://localhost/".toList).isSome = true := by
    rw [follows.parse, ran]
    rfl
  obtain ⟨base, parsed⟩ := Option.isSome_iff_exists.1 parsed
  exact ⟨base, parsed, follows.join parsed ran⟩

/-- With a slash at the start, a text is accepted below a server or not at all. -/
theorem isReference_slash
    (localhost : machine.authority true "localhost/".toList = true)
    (rest : List Char) :
    isReference reader ('/' :: rest) = machine.relative true (relevant ('/' :: rest)) := by
  obtain ⟨base, found, joins⟩ := exists_relativeBase follows localhost
  have incomplete : (reader.parse? ('/' :: rest)).isSome = false := by
    rw [follows.parse, relevant_slash, machine.run_slash]
    rfl
  have below : (reader.join? base ('/' :: rest)).isSome =
      machine.relative true (relevant ('/' :: rest)) := by
    rw [joins, relevant_slash, machine.run_below_web, Machine.isSome_accept]
  simp [isReference, incomplete, found, below]

/-- A reference below a server is accepted whatever it holds. -/
theorem isReference_path
    (localhost : machine.authority true "localhost/".toList = true)
    {rest : List Char}
    (forward : (withoutBreaks rest).head? ≠ some '/')
    (backward : (withoutBreaks rest).head? ≠ some '\\') :
    isReference reader ('/' :: rest) = true := by
  rw [isReference_slash follows localhost, relevant_slash]
  apply machine.relative_path
  intro char first
  have start := head?_of_rdropWhile first
  rw [start] at forward backward
  simpa [isSlash] using And.intro forward backward

/-- The address of a server is what an address of the web is without its scheme. -/
theorem isReference_server
    (localhost : machine.authority true "localhost/".toList = true)
    {first : Char}
    (other : first ∉ '/' :: '\\' :: breaks)
    (rest : List Char) :
    isReference reader ('/' :: '/' :: first :: rest) =
      isReference reader ("http:".toList ++ '/' :: '/' :: first :: rest) := by
  let counted := withoutBreaks ((first :: rest).rdropWhile isStripped)
  have reference : relevant ('/' :: '/' :: first :: rest) = '/' :: '/' :: counted :=
    relevant_append_slash ['/'] (by simp) (by simp [breaks]) (first :: rest)
  have address : relevant ("http:".toList ++ '/' :: '/' :: first :: rest) =
      "http:".toList ++ '/' :: '/' :: counted :=
    relevant_append_slash "http:/".toList (by simp) (by simp [breaks]) (first :: rest)
  -- The first character is no slash, and unless nothing is left, it is still the first.
  have double : ∀ char ∈ counted.head?, isSlash char = false := by
    intro char start
    rw [List.mem_cons, List.mem_cons, not_or, not_or] at other
    have kept : withoutBreaks (first :: rest) = first :: withoutBreaks rest :=
      List.filter_cons_of_pos (by simpa using other.2.2)
    have same := head?_of_rdropWhile start
    obtain rfl : first = char := by simpa [kept] using same
    simp [isSlash, other.1, other.2.1]
  rw [isReference_slash follows localhost, reference, machine.relative_server double,
    isReference_of_head? follows (by simp) (by simp), address, machine.run_web,
    Machine.isSome_accept, machine.ignoreSlashes_server double]

end References

end Fieldwise.Url

/-! ## The report -/

namespace Fieldwise.Validator

open Url

variable (config : Config) (reachability : Reachability) (book : RuleBook)

theorem errors_of_url
    [libraries : Libraries]
    (lookup : String → Option Value)
    (name content : String)
    (parameter : Option Parameter) :
    let validator := Builder.assemble { config, reachability, predicates := [], rules := book }
    let rule : Rule := ⟨.builtIn .url, parameter⟩
    let errors :=
      (validator.validate ⟨[⟨name, .text content, .registered [rule]⟩], lookup⟩).errors
    (errors = [] ↔ isReference libraries.addresses content.toList = true) ∧
    (errors = [.about name rule "url" ("The " ++ name ++ " field must be a valid URL")] ↔
      ¬ isReference libraries.addresses content.toList = true) := by
  intro validator rule errors
  have message : Report.keywordMessage name .url rule (.text content) =
      "The " ++ name ++ " field must be a valid URL" := by
    apply String.ext
    simp [Report.keywordMessage]
  rw [← message]
  refine errors_of_format config reachability book lookup name content parameter .url
    (isReference libraries.addresses) rfl rfl fun companion => ?_
  simp only [Keyword.Passes, Value.text.injEq, exists_eq_left']

/-- **The rule on web addresses accepts references by how they begin.** A text without a
slash at the start is accepted only with a scheme, which is read between the margins and
past tabs and line ends. A slash at the start that no other slash follows is enough. Behind
two slashes, a text is accepted exactly if it is accepted with the scheme of the web in
front. The empty text is not accepted, and every text that is not accepted has the one error
of the rule. The library that reads addresses follows the URL standard, and takes the name of
the own machine for a host. -/
theorem url_rule_reads_references
    [libraries : Libraries]
    {machine : Machine}
    (follows : libraries.addresses.FollowsStandard machine)
    (localhost : machine.authority true "localhost/".toList = true)
    (lookup : String → Option Value)
    (name : String)
    (parameter : Option Parameter) :
    let validator := Builder.assemble { config, reachability, predicates := [], rules := book }
    let rule : Rule := ⟨.builtIn .url, parameter⟩
    let errors (content : String) :=
      (validator.validate ⟨[⟨name, .text content, .registered [rule]⟩], lookup⟩).errors
    let refused : List FieldError :=
      [.about name rule "url" ("The " ++ name ++ " field must be a valid URL")]
    (∀ content, errors content = [] ∨ errors content = refused) ∧
    (∀ content : String, content.toList.head? ≠ some '/' → errors content = [] →
      ∃ front core back,
        Margins content.toList front core back ∧ BeginsWithScheme (withoutBreaks core)) ∧
    (∀ more : String,
      (withoutBreaks more.toList).head? ≠ some '/' →
      (withoutBreaks more.toList).head? ≠ some '\\' →
        errors ("/" ++ more) = []) ∧
    (∀ (more : String) (first : Char),
      more.toList.head? = some first → first ∉ '/' :: '\\' :: breaks →
        (errors ("//" ++ more) = [] ↔ errors ("http:" ++ "//" ++ more) = [])) ∧
    errors "" = refused := by
  intro validator rule errors refused
  have accepts (content : String) :
      errors content = [] ↔ isReference libraries.addresses content.toList = true :=
    (errors_of_url config reachability book lookup name content parameter).1
  have refuses (content : String) :
      errors content = refused ↔ ¬ isReference libraries.addresses content.toList = true :=
    (errors_of_url config reachability book lookup name content parameter).2
  refine ⟨?_, ?_, ?_, ?_, ?_⟩
  · intro content
    rw [accepts, refuses]
    exact Classical.em _
  · intro content start accepted
    have written : content.toList ≠ [] := by
      intro empty
      rw [accepts, empty] at accepted
      cases accepted
    rw [accepts, isReference_of_head? follows written start] at accepted
    obtain ⟨front, core, back, margins, counts⟩ := exists_margins content.toList
    obtain ⟨scheme, rest, found⟩ := machine.exists_splitScheme?_of_run accepted
    refine ⟨front, core, back, margins, ?_⟩
    rw [← counts]
    exact beginsWithScheme_of_splitScheme? found
  · intro more forward backward
    rw [accepts, String.toList_append]
    exact isReference_path follows localhost forward backward
  · intro more first start other
    obtain ⟨rest, characters⟩ := List.head?_eq_some_iff.1 start
    rw [accepts, accepts, String.toList_append, String.toList_append, String.toList_append,
      characters, List.append_assoc]
    exact Eq.congr_left (isReference_server follows localhost other rest)
  · rw [refuses]
    exact Bool.false_ne_true

/-- A scheme behind a space and around a tab, a path that starts with a tab, and the address
of a server. -/
theorem schemes_paths_and_servers_are_read :
    let errors (content : String) :=
      (Validator.default.validate
        ⟨[⟨"Link", .text content, .registered [⟨.builtIn .url, none⟩]⟩], fun _ => none⟩).errors
    AddressReader.plain.FollowsStandard plainMachine ∧
    plainMachine.authority true "localhost/".toList = true ∧
    (∃ front core back,
      Margins " te\tl:112".toList front core back ∧ BeginsWithScheme (withoutBreaks core)) ∧
    errors "/\tpath\\\\more" = [] ∧
    (errors "//localhost" = [] ↔ errors "http://localhost" = []) := by
  intro errors
  have follows := AddressReader.plain_followsStandard
  have localhost : plainMachine.authority true "localhost/".toList = true := by decide +kernel
  obtain ⟨-, schemes, paths, servers, -⟩ := url_rule_reads_references Config.default
    Reachability.offline Table.empty follows localhost (fun _ => none) "Link" none
  have accepted : errors " te\tl:112" = [] :=
    (errors_of_url Config.default Reachability.offline Table.empty (fun _ => none) "Link"
      " te\tl:112" none).1.2 (by decide +kernel)
  exact ⟨follows, localhost, schemes " te\tl:112" (by decide) accepted,
    paths "\tpath\\\\more" (by decide) (by decide),
    servers "localhost" 'l' (by decide) (by decide)⟩

end Fieldwise.Validator
