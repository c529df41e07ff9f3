import Fieldwise.Duration

/-!
Contract: checks whether something answers at an address.

Owns: what a check answers, after which time, the limit on that time, and when
there is an answer within a timeout.

Does **not** own: requests. A check is a given function; nothing here uses a
network.
-/

set_option autoImplicit false

namespace Fieldwise

/-- The answer of a check, and how long it takes to come. The delay is the time for
which the check yields to the runtime. A check that never yields, as one made of a
plain function, has none, however long it computes. -/
structure Probe where
  reachable : Bool
  delay : Duration

/-- A check: its answer for each address. -/
abbrev Reachability := String → Probe

namespace Probe

/-- An answer that comes at once. -/
def atOnce (reachable : Bool) : Probe :=
  { reachable, delay := Duration.ofMillis 0 }

end Probe

/-- The runtime that waits for answers. The ticks of its clock are left out. -/
structure Timer where
  /-- The answer of a check, if it comes before the timeout. -/
  await : (timeout : Duration) → Probe → Option Bool
  /-- An answer whose delay is within the timeout is given, and no other. -/
  await_eq : ∀ timeout probe,
    await timeout probe =
      if probe.delay.totalNanos ≤ timeout.totalNanos then some probe.reachable else none

namespace Timer

/-- Does the answer of a check say, within the timeout, that the address is reachable?
Without an answer it does not. -/
def confirms (timer : Timer) (timeout : Duration) (probe : Probe) : Bool :=
  (timer.await timeout probe).getD false

/-- A runtime that measures exactly. -/
def exact : Timer where
  await timeout probe :=
    if probe.delay.totalNanos ≤ timeout.totalNanos then some probe.reachable else none
  await_eq _ _ := rfl

end Timer

namespace Reachability

/-- One answer for every address, at once. -/
def fixed (reachable : Bool) : Reachability :=
  fun _ => Probe.atOnce reachable

/-- One answer for every address, after a while. -/
def delayed (delay : Duration) (reachable : Bool) : Reachability :=
  fun _ => ⟨reachable, delay⟩

/-- The addresses with a given ending are reachable, at once. -/
def withEnding (ending : String) : Reachability :=
  fun address => Probe.atOnce (ending.toList.isSuffixOf address.toList)

/-- No request can be made, so nothing is reachable. -/
def offline : Reachability :=
  fixed false

end Reachability

end Fieldwise
