import Mathlib.Data.List.Forall2
import Fieldwise.Proofs.Book
import Fieldwise.Rule.Shelf

/-!
Contract: rule books that several clients use, copy and read.

Owns: the registrations of a history that reach a book, the book that they lead to,
whose rules these are, shelves with the same rules, and what copies and snapshots have
to do with later requests.

Does **not** own: the rules after a list of registrations (`Fieldwise.Proofs.Book`).

A request changes at most the book of its own place, and that one by a registration.
So a book is known at any later time from the registrations that reached it, and the
rest of the history, copies included, does not matter to it.
-/

set_option autoImplicit false

namespace Fieldwise

/-! ## Related lists of books -/

section Related

variable {Item : Type} {related : Item → Item → Prop} {first second : List Item}

theorem forall₂_modify
    (all : List.Forall₂ related first second)
    {change replace : Item → Item}
    (kept : ∀ left right, related left right → related (change left) (replace right))
    (place : Nat) :
    List.Forall₂ related (first.modify place change) (second.modify place replace) := by
  induction all generalizing place with
  | nil => simp
  | @cons left right _ _ head tail inductionHypothesis =>
      cases place with
      | zero => exact .cons (kept left right head) tail
      | succ place => exact .cons head (inductionHypothesis place)

theorem forall₂_getElem?
    (all : List.Forall₂ related first second)
    (place : Nat) :
    List.Forall₂ related first[place]?.toList second[place]?.toList := by
  induction all generalizing place with
  | nil => exact .nil
  | cons head tail inductionHypothesis =>
      cases place with
      | zero => exact .cons head .nil
      | succ place => exact inductionHypothesis place

end Related

namespace Shelf

variable {Client : Type}

/-! ## One book of a shelf -/

/-- The registrations of a history that reach the book of a place, with their clients. -/
def registrationsAt
    (place : Nat)
    (history : List (Client × Request)) :
    List (Client × Registration) :=
  history.filterMap fun
    | (client, .register reached registration) =>
        if reached = place then some (client, registration) else none
    | _ => none

/-- Those of them that name a field. -/
def registrationsFor
    (place : Nat)
    (name : String)
    (history : List (Client × Request)) :
    List (Client × Registration) :=
  (registrationsAt place history).filter fun call => call.2.field = name

theorem registrationsAt_cons
    (place : Nat)
    (call : Client × Request)
    (history : List (Client × Request)) :
    registrationsAt place (call :: history) =
      registrationsAt place [call] ++ registrationsAt place history := by
  unfold registrationsAt
  rw [← List.filterMap_append, List.singleton_append]

theorem afterAll_append
    (shelf : Shelf)
    (earlier later : List (Client × Request)) :
    shelf.afterAll (earlier ++ later) = (shelf.afterAll earlier).afterAll later :=
  List.foldl_append

/-- A request leads a book on by the registration that reaches it, if any. -/
theorem getElem?_after
    {shelf : Shelf} {place : Nat} {book : RuleBook}
    (present : shelf[place]? = some book)
    (call : Client × Request) :
    (shelf.after call.2)[place]? =
      some (book.registerAll ((registrationsAt place [call]).map Prod.snd)) := by
  obtain ⟨client, request⟩ := call
  cases request with
  | register reached registration =>
      rw [after, List.getElem?_modify, present]
      by_cases same : reached = place
      · simp [registrationsAt, same, RuleBook.registerAll]
      · simp [registrationsAt, same, RuleBook.registerAll]
  | copy copied =>
      have early : place < shelf.length := (List.getElem?_eq_some_iff.1 present).1
      rw [after, List.getElem?_append_left early, present]
      rfl
  | rules asked name => exact present
  | snapshot asked => exact present

/-- After a history a book is what the registrations that reached it have made of it. -/
theorem getElem?_afterAll
    {shelf : Shelf} {place : Nat} {book : RuleBook}
    (present : shelf[place]? = some book)
    (history : List (Client × Request)) :
    (shelf.afterAll history)[place]? =
      some (book.registerAll ((registrationsAt place history).map Prod.snd)) := by
  induction history generalizing shelf book with
  | nil => exact present
  | cons call history inductionHypothesis =>
      rw [registrationsAt_cons, List.map_append, RuleBook.registerAll_append]
      exact inductionHypothesis (getElem?_after present call)

/-! ## The rules of one field -/

theorem rulesFor_registrationsAt
    (place : Nat)
    (name : String)
    (history : List (Client × Request)) :
    Registration.rulesFor name ((registrationsAt place history).map Prod.snd) =
      (registrationsFor place name history).flatMap fun call => call.2.rules := by
  unfold registrationsFor
  induction registrationsAt place history with
  | nil => rfl
  | cons call calls inductionHypothesis =>
      rw [List.map_cons, Registration.rulesFor_cons, inductionHypothesis, List.filter_cons]
      by_cases named : call.2.field = name <;> simp [named]

theorem mem_fields_registrationsAt_iff
    (place : Nat)
    (name : String)
    (history : List (Client × Request)) :
    name ∈ ((registrationsAt place history).map Prod.snd).map Registration.field ↔
      registrationsFor place name history ≠ [] := by
  rw [registrationsFor, ne_eq, List.filter_eq_nil_iff]
  simp

/-- What a book holds for a field after a history. -/
theorem rules?_afterAll
    {shelf : Shelf} {place : Nat} {book : RuleBook}
    (present : shelf[place]? = some book)
    (history : List (Client × Request))
    (name : String) :
    (shelf.afterAll history).rules? place name =
      if registrationsFor place name history = [] then book.get? name
      else some (book.rulesOf name ++
        (registrationsFor place name history).flatMap fun call => call.2.rules) := by
  rw [rules?, getElem?_afterAll present history, Option.bind_some, RuleBook.get?_registerAll,
    rulesFor_registrationsAt]
  simp only [mem_fields_registrationsAt_iff, ite_not]

theorem getD_rules?_afterAll
    {shelf : Shelf} {place : Nat} {book : RuleBook}
    (present : shelf[place]? = some book)
    (history : List (Client × Request))
    (name : String) :
    ((shelf.afterAll history).rules? place name).getD [] =
      book.rulesOf name ++
        (registrationsFor place name history).flatMap fun call => call.2.rules := by
  rw [rules?_afterAll present]
  split
  · rename_i unnamed
    rw [unnamed, List.flatMap_nil, List.append_nil, RuleBook.rulesOf]
  · rfl

/-! ## Whose rules they are -/

/-- The rules that registrations contribute, each with the client it came from. -/
def attributedRules (calls : List (Client × Registration)) : List (Client × Rule) :=
  calls.flatMap fun call => call.2.rules.map fun rule => (call.1, rule)

theorem map_snd_attributedRules (calls : List (Client × Registration)) :
    (attributedRules calls).map Prod.snd = calls.flatMap fun call => call.2.rules := by
  rw [attributedRules, List.map_flatMap]
  apply List.flatMap_congr
  intro call _
  rw [List.map_map]
  exact List.map_id _

section Clients

variable [DecidableEq Client]

/-- What one client did of a history. -/
def ofClient {Item : Type} (client : Client) (history : List (Client × Item)) :
    List (Client × Item) :=
  history.filter fun call => call.1 = client

theorem ofClient_attributedRules (client : Client) (calls : List (Client × Registration)) :
    ofClient client (attributedRules calls) = attributedRules (ofClient client calls) := by
  unfold ofClient
  induction calls with
  | nil => rfl
  | cons call calls inductionHypothesis =>
      have split : attributedRules (call :: calls) =
          (call.2.rules.map fun rule => (call.1, rule)) ++ attributedRules calls :=
        List.flatMap_cons
      rw [split, List.filter_append, inductionHypothesis, List.filter_map, List.filter_cons]
      by_cases own : call.1 = client
      · simp [own, attributedRules, Function.comp_def]
      · simp [own, Function.comp_def]

theorem registrationsFor_ofClient
    (client : Client)
    (place : Nat)
    (name : String)
    (history : List (Client × Request)) :
    registrationsFor place name (ofClient client history) =
      ofClient client (registrationsFor place name history) := by
  have reached : registrationsAt place (ofClient client history) =
      ofClient client (registrationsAt place history) := by
    unfold registrationsAt ofClient
    rw [List.filterMap_filter, List.filter_filterMap]
    apply List.filterMap_congr
    rintro ⟨caller, request⟩ _
    cases request with
    | register other registration => by_cases same : other = place <;> simp [same, Option.filter]
    | copy _ | rules _ _ | snapshot _ => simp
  rw [registrationsFor, reached, registrationsFor, ofClient, ofClient, List.filter_filter,
    List.filter_filter]
  simp only [Bool.and_comm]

end Clients

/-! ## Requests in another order -/

theorem sameRules_refl (shelf : Shelf) : List.Forall₂ RuleBook.SameRules shelf shelf :=
  List.forall₂_same.2 fun _ _ _ => rfl

theorem after_sameRules
    {first second : Shelf}
    (same : List.Forall₂ RuleBook.SameRules first second)
    (request : Request) :
    List.Forall₂ RuleBook.SameRules (first.after request) (second.after request) := by
  cases request with
  | register place registration =>
      exact forall₂_modify same (fun _ _ agrees => agrees.register registration) place
  | copy place => exact List.rel_append same (forall₂_getElem? same place)
  | rules _ _ | snapshot _ => exact same

theorem afterAll_sameRules
    {first second : Shelf}
    (same : List.Forall₂ RuleBook.SameRules first second)
    (history : List (Client × Request)) :
    List.Forall₂ RuleBook.SameRules (first.afterAll history) (second.afterAll history) := by
  induction history generalizing first second with
  | nil => exact same
  | cons call history inductionHypothesis => exact inductionHypothesis (after_sameRules same call.2)

/-- Registrations in different books, or of different fields, may come in either order. -/
theorem after_comm
    (shelf : Shelf)
    {place other : Nat} {first second : Registration}
    (apart : place ≠ other ∨ first.field ≠ second.field) :
    List.Forall₂ RuleBook.SameRules
      ((shelf.after (.register place first)).after (.register other second))
      ((shelf.after (.register other second)).after (.register place first)) := by
  simp only [after]
  by_cases same : place = other
  · subst same
    have fields : first.field ≠ second.field := apart.resolve_left (absurd rfl)
    rw [List.modify_modify_eq, List.modify_modify_eq]
    refine forall₂_modify (sameRules_refl shelf) (fun left right agrees name => ?_) place
    have both : ((left.register first).register second).SameRules
        ((right.register first).register second) :=
      (agrees.register first).register second
    exact (both name).trans (right.register_comm fields name)
  · rw [List.modify_modify_ne _ _ _ same]
    exact sameRules_refl _

theorem afterAll_comm
    (shelf : Shelf)
    (earlier later : List (Client × Request))
    (client partner : Client)
    {place other : Nat} {first second : Registration}
    (apart : place ≠ other ∨ first.field ≠ second.field) :
    List.Forall₂ RuleBook.SameRules
      (shelf.afterAll (earlier ++
        (client, .register place first) :: (partner, .register other second) :: later))
      (shelf.afterAll (earlier ++
        (partner, .register other second) :: (client, .register place first) :: later)) := by
  rw [afterAll_append, afterAll_append]
  exact afterAll_sameRules (after_comm _ apart) later

/-! ## Copies and snapshots -/

/-- A copy is what its book was, and goes on by the registrations that reach itself; so
does the book. -/
theorem afterAll_copy
    {shelf : Shelf} {place : Nat} {book : RuleBook}
    (present : shelf[place]? = some book)
    (client : Client)
    (later : List (Client × Request)) :
    let final := shelf.afterAll ((client, .copy place) :: later)
    shelf.length ≠ place ∧
    final[shelf.length]? =
      some (book.registerAll ((registrationsAt shelf.length later).map Prod.snd)) ∧
    final[place]? = some (book.registerAll ((registrationsAt place later).map Prod.snd)) := by
  have early : place < shelf.length := (List.getElem?_eq_some_iff.1 present).1
  have copied : shelf.after (.copy place) = shelf ++ [book] := by
    rw [after, present, Option.toList_some]
  have atCopy : (shelf.after (.copy place))[shelf.length]? = some book := by
    rw [copied, List.getElem?_concat_length]
  have atBook : (shelf.after (.copy place))[place]? = some book := by
    rw [copied, List.getElem?_append_left early, present]
  exact ⟨Nat.ne_of_gt early, getElem?_afterAll atCopy later, getElem?_afterAll atBook later⟩

theorem answers_append
    (shelf : Shelf)
    (earlier later : List (Client × Request)) :
    shelf.answers (earlier ++ later) =
      shelf.answers earlier ++ (shelf.afterAll earlier).answers later := by
  induction earlier generalizing shelf with
  | nil => rfl
  | cons call earlier inductionHypothesis =>
      exact congrArg (shelf.answer call.2 :: ·) (inductionHypothesis (shelf.after call.2))

theorem length_answers (shelf : Shelf) (history : List (Client × Request)) :
    (shelf.answers history).length = history.length := by
  induction history generalizing shelf with
  | nil => rfl
  | cons call history inductionHypothesis =>
      exact congrArg (· + 1) (inductionHypothesis (shelf.after call.2))

/-- A request is answered from the shelf as it is at that moment. -/
theorem answers_at
    (shelf : Shelf)
    (earlier later : List (Client × Request))
    (client : Client)
    (request : Request) :
    (shelf.answers (earlier ++ (client, request) :: later))[earlier.length]? =
      some ((shelf.afterAll earlier).answer request) := by
  have length := shelf.length_answers earlier
  rw [answers_append, List.getElem?_append_right (Nat.le_of_eq length), length, Nat.sub_self]
  rfl

/-- **Registrations accumulate, and copies and snapshots are apart from them.** Take any
history of requests that any clients make of a shelf of rule books, in any order. A book
that was empty has no entry for a field exactly if no registration of the history names
the field in that book; and otherwise it has the rules that these registrations
contribute, one after the other in the order of the history. Each of these rules can be
given to a client so that the rules of a client are, in their order, those the book would
have if nobody else had made a request. Registrations of different fields, or in different
books, may change places within a history, and every book has the same rules for every
field. A copy is a further book: from its moment on it depends on the registrations made
in the copy and the original on those made in the original. A snapshot is the book at
its moment, whatever comes later. -/
theorem registrations_accumulate
    {Client : Type} [DecidableEq Client]
    (shelf : Shelf)
    (history : List (Client × Request)) :
    (∀ (place : Nat) (name : String),
      shelf[place]? = some Table.empty →
        let found := (shelf.afterAll history).rules? place name
        let calls := registrationsFor place name history
        (found = none ↔ calls = []) ∧
        ∀ rules, found = some rules →
          rules = (calls.flatMap fun call => call.2.rules) ∧
          ∃ attributed : List (Client × Rule),
            attributed.map Prod.snd = rules ∧
            ∀ client,
              (ofClient client attributed).map Prod.snd =
                ((shelf.afterAll (ofClient client history)).rules? place name).getD []) ∧
    (∀ (client partner : Client) (place other : Nat) (first second : Registration)
        (later : List (Client × Request)),
      place ≠ other ∨ first.field ≠ second.field →
        List.Forall₂ RuleBook.SameRules
          (shelf.afterAll (history ++
            (client, .register place first) :: (partner, .register other second) :: later))
          (shelf.afterAll (history ++
            (partner, .register other second) :: (client, .register place first) :: later))) ∧
    (∀ (client : Client) (place : Nat) (book : RuleBook) (later : List (Client × Request)),
      (shelf.afterAll history)[place]? = some book →
        let copied := (shelf.afterAll history).length
        let final := shelf.afterAll (history ++ (client, .copy place) :: later)
        copied ≠ place ∧
        final[copied]? = some (book.registerAll ((registrationsAt copied later).map Prod.snd)) ∧
        final[place]? = some (book.registerAll ((registrationsAt place later).map Prod.snd))) ∧
    (∀ (client : Client) (place : Nat) (book : RuleBook) (later : List (Client × Request)),
      (shelf.afterAll history)[place]? = some book →
        (shelf.answers (history ++ (client, .snapshot place) :: later))[history.length]? =
          some (.snapshot book)) := by
  refine ⟨?_, ?_, ?_, ?_⟩
  · intro place name fresh found calls
    have decided : found = if calls = [] then none
        else some (calls.flatMap fun call => call.2.rules) :=
      rules?_afterAll fresh history name
    constructor
    · rw [decided, ite_eq_left_iff]
      simp
    · intro rules held
      rw [decided] at held
      have contributed : rules = calls.flatMap fun call => call.2.rules := by
        split at held
        · cases held
        · exact (Option.some.inj held).symm
      refine ⟨contributed, attributedRules calls, ?_, ?_⟩
      · rw [contributed, map_snd_attributedRules]
      · intro client
        rw [ofClient_attributedRules, map_snd_attributedRules, getD_rules?_afterAll fresh,
          registrationsFor_ofClient]
        rfl
  · intro client partner place other first second later apart
    exact shelf.afterAll_comm history later client partner apart
  · intro client place book later present copied final
    have continued : final =
        (shelf.afterAll history).afterAll ((client, .copy place) :: later) :=
      shelf.afterAll_append history _
    rw [continued]
    exact afterAll_copy present client later
  · intro client place book later present
    rw [answers_at, answer, present]
    rfl

/-- Two clients register in turns in one book; one of them copies it in between. -/
def turns : List (Bool × Request) :=
  [(true, .register 0 (.single "Title" ⟨.builtIn .required, none⟩)),
    (false, .register 0 (.batch "Title" "min:1|max:5")),
    (true, .copy 0),
    (false, .register 1 (.batch "Body" "required")),
    (true, .register 0 (.single "Title" ⟨.builtIn .required, none⟩))]

theorem registrations_accumulate_in_turns :
    let final := Shelf.afterAll [Table.empty] turns
    final.rules? 0 "Title" =
      some [⟨.builtIn .required, none⟩, ⟨.builtIn .min, some (.integer 1)⟩,
        ⟨.builtIn .max, some (.integer 5)⟩, ⟨.builtIn .required, none⟩] ∧
    final.rules? 0 "Body" = none := by
  intro final
  obtain ⟨accumulate, -, -, -⟩ := registrations_accumulate [Table.empty] turns
  obtain ⟨named, held⟩ := accumulate 0 "Title" rfl
  obtain ⟨rules, found⟩ := Option.ne_none_iff_exists'.1 (mt named.1 (by decide))
  refine ⟨?_, (accumulate 0 "Body" rfl).1.2 rfl⟩
  rw [found, (held rules found).1]
  decide

end Shelf

end Fieldwise
