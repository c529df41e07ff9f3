import Fieldwise.Rule.Book

/-!
Contract: the use of rule books over time.

Owns: shelves of books, the requests that clients make of them, the shelf after a
request, its answer, and both for whole histories.

Does **not** own: clients. The requests of several clients reach a shelf one after
the other, in some order; who made a request is kept beside it.

A book is known by its place on the shelf, and a copy is one more book at its end.
A snapshot is the answer to a request and no book of the shelf.
-/

set_option autoImplicit false

namespace Fieldwise

abbrev Shelf := List RuleBook

namespace Shelf

inductive Request where
  | register (place : Nat) (registration : Registration)
  /-- Put a copy of a book on the shelf. -/
  | copy (place : Nat)
  /-- Ask for the rules of one field. -/
  | rules (place : Nat) (field : String)
  /-- Ask for the rules of every field. -/
  | snapshot (place : Nat)

inductive Answer where
  | silence
  | rules (found : Option (List Rule))
  | snapshot (book : RuleBook)

/-- The rules of a field in a book of the shelf. -/
def rules? (shelf : Shelf) (place : Nat) (field : String) : Option (List Rule) :=
  shelf[place]?.bind fun book => book.get? field

def after (shelf : Shelf) : Request → Shelf
  | .register place registration => shelf.modify place fun book => book.register registration
  | .copy place => shelf ++ shelf[place]?.toList
  | .rules _ _ | .snapshot _ => shelf

def answer (shelf : Shelf) : Request → Answer
  | .register _ _ | .copy _ => .silence
  | .rules place field => .rules (shelf.rules? place field)
  | .snapshot place => (shelf[place]?.map Answer.snapshot).getD .silence

def afterAll {Client : Type} (shelf : Shelf) (history : List (Client × Request)) : Shelf :=
  history.foldl (fun shelf call => shelf.after call.2) shelf

def answers {Client : Type} (shelf : Shelf) : List (Client × Request) → List Answer
  | [] => []
  | call :: history => shelf.answer call.2 :: answers (shelf.after call.2) history

end Shelf

end Fieldwise
