import Fieldwise.Config.Codec
import Fieldwise.Proofs.Validator.Origin
import Fieldwise.Proofs.Value.Members

/-!
Contract: settings written as values and read back.

Owns: the duration that seconds and nanoseconds add up to, the values that stand for
settings, and what is read of them.

Does **not** own: settings read from an environment (`Fieldwise.Proofs.Config.Environment`).

Several pairs of seconds and nanoseconds are one duration, because nanoseconds carry over.
What decides is their sum: a duration is read exactly if one has that sum, and no two
durations have the same.
-/

set_option autoImplicit false

namespace Fieldwise

namespace Duration

/-! ## Sums -/

/-- A duration is determined by its length. -/
theorem eq_of_totalNanos_eq {left right : Duration} (same : left.totalNanos = right.totalNanos) :
    left = right := by
  obtain ⟨leftSeconds, leftNanos⟩ := left
  obtain ⟨rightSeconds, rightNanos⟩ := right
  have sum : leftSeconds.toNat * 1000000000 + leftNanos.val =
      rightSeconds.toNat * 1000000000 + rightNanos.val := same
  have seconds : leftSeconds = rightSeconds := UInt64.toNat_inj.1 (by omega)
  have nanos : leftNanos = rightNanos := Fin.ext (by omega)
  rw [seconds, nanos]

theorem exists_ofParts?_iff (seconds nanos : Nat) :
    (∃ duration, ofParts? seconds nanos = some duration) ↔
      seconds + nanos / 1000000000 < 2 ^ 64 := by
  rw [← Option.isSome_iff_exists, ofParts?]
  simp [UInt64.size]

theorem totalNanos_of_ofParts?
    {seconds nanos : Nat} {duration : Duration}
    (read : ofParts? seconds nanos = some duration) :
    duration.totalNanos = seconds * 1000000000 + nanos := by
  obtain ⟨fits, made⟩ := Option.ite_none_right_eq_some.1 read
  obtain rfl := Option.some.inj made
  have whole : (UInt64.ofNat (seconds + nanos / 1000000000)).toNat =
      seconds + nanos / 1000000000 :=
    UInt64.toNat_ofNat_of_lt' fits
  simp only [totalNanos, whole, Fin.ofNat]
  omega

/-- Seconds and nanoseconds make the duration of their sum. -/
theorem ofParts?_eq_some_iff (seconds nanos : Nat) (duration : Duration) :
    ofParts? seconds nanos = some duration ↔
      duration.totalNanos = seconds * 1000000000 + nanos := by
  refine ⟨totalNanos_of_ofParts?, fun same => ?_⟩
  have fits : seconds + nanos / 1000000000 < 2 ^ 64 := by
    have below := duration.seconds.toNat_lt
    unfold totalNanos at same
    omega
  obtain ⟨made, read⟩ := (exists_ofParts?_iff seconds nanos).2 fits
  rw [read, eq_of_totalNanos_eq ((totalNanos_of_ofParts? read).trans same.symm)]

/-! ## Values of two parts -/

/-- An object of seconds of 64 bits and nanoseconds of 32 bits, and of nothing else. -/
structure HasParts (value : Value) (seconds nanos : Nat) : Prop where
  whole : Value.entry? "secs" value = some (.integer seconds)
  part : Value.entry? "nanos" value = some (.integer nanos)
  alone : ∀ name found, Value.entry? name value = some found → name = "secs" ∨ name = "nanos"
  wholeFits : seconds < 2 ^ 64
  partFits : nanos < 2 ^ 32

theorem HasParts.ofValue?_eq
    {value : Value} {seconds nanos : Nat}
    (parts : HasParts value seconds nanos) :
    ofValue? value = ofParts? seconds nanos := by
  have alone : value.onlyNames ["secs", "nanos"] = true := by
    rw [Value.onlyNames_iff]
    intro name found present
    simpa using parts.alone name found present
  have members : value.members? ["secs", "nanos"] =
      some [some (.integer seconds), some (.integer nanos)] := by
    rw [Value.members?_of_found parts.whole, List.map_cons, List.map_singleton, parts.whole,
      parts.part]
  rw [ofValue?, if_pos alone, members]
  exact if_pos ⟨parts.wholeFits, parts.partFits⟩

theorem hasParts_toValue (duration : Duration) :
    HasParts duration.toValue duration.seconds.toNat duration.nanos.val where
  whole := Value.entry?_ofEntries (by simp) (by simp)
  part := Value.entry?_ofEntries (by simp) (by simp)
  alone := by
    intro name found present
    simpa using Value.mem_of_entry?_ofEntries present
  wholeFits := duration.seconds.toNat_lt
  partFits := Nat.lt_trans duration.nanos.isLt (by decide)

end Duration

/-! ## Settings -/

namespace Config

/-- An object that holds a timeout of two parts and the name of a companion, and perhaps
more. -/
structure IsWritten (value : Value) (seconds nanos : Nat) (name : String) : Prop where
  timeout : ∃ timeout,
    Value.entry? "active_url_timeout" value = some timeout ∧
      Duration.HasParts timeout seconds nanos
  companion : Value.entry? "confirmation_field" value = some (.text name)

theorem IsWritten.ofValue?_eq
    {value : Value} {seconds nanos : Nat} {name : String}
    (written : IsWritten value seconds nanos name) :
    ofValue? value = (Duration.ofParts? seconds nanos).map fun timeout => ⟨timeout, name⟩ := by
  obtain ⟨⟨timeout, found, parts⟩, companion⟩ := written
  have members : value.members? ["active_url_timeout", "confirmation_field"] =
      some [some timeout, some (.text name)] := by
    rw [Value.members?_of_found companion, List.map_cons, List.map_singleton, found, companion]
  rw [ofValue?, members]
  exact congrArg (Option.map _) parts.ofValue?_eq

theorem isWritten_toValue (config : Config) :
    IsWritten config.toValue config.activeUrlTimeout.seconds.toNat
      config.activeUrlTimeout.nanos.val config.confirmationField where
  timeout := ⟨_, Value.entry?_ofEntries (by simp) (by simp), Duration.hasParts_toValue _⟩
  companion := Value.entry?_ofEntries (by simp) (by simp)

/-- What is read of settings is what the parts of the timeout add up to, under the name that
was written. -/
theorem IsWritten.ofValue?_eq_some_iff
    {value : Value} {seconds nanos : Nat} {name : String}
    (written : IsWritten value seconds nanos name)
    (config : Config) :
    ofValue? value = some config ↔
      config.activeUrlTimeout.totalNanos = seconds * 1000000000 + nanos ∧
        config.confirmationField = name := by
  rw [written.ofValue?_eq, Option.map_eq_some_iff]
  constructor
  · rintro ⟨timeout, read, rfl⟩
    exact ⟨(Duration.ofParts?_eq_some_iff ..).1 read, rfl⟩
  · rintro ⟨sum, rfl⟩
    exact ⟨_, (Duration.ofParts?_eq_some_iff ..).2 sum, rfl⟩

theorem ofValue?_toValue (config : Config) : ofValue? config.toValue = some config :=
  ((isWritten_toValue config).ofValue?_eq_some_iff config).2 ⟨rfl, rfl⟩

/-- **Settings come back from their value, and from every value of their parts what the parts
add up to is read.** A value with a timeout of seconds and nanoseconds is read exactly if the
seconds with those that the nanoseconds carry over have 64 bits. The settings have the name
that was written and a timeout of the same length with less than a second of nanoseconds;
writing and reading them again changes nothing. A validator can be made from them exactly if
that length is not zero and the name not blank. -/
theorem settings_come_back [Libraries] :
    (∀ config : Config, ofValue? config.toValue = some config) ∧
    (∀ value seconds nanos name, IsWritten value seconds nanos name →
      ((∃ config, ofValue? value = some config) ↔ seconds + nanos / 1000000000 < 2 ^ 64) ∧
      (∀ config, ofValue? value = some config →
        config.activeUrlTimeout.totalNanos = seconds * 1000000000 + nanos ∧
        config.activeUrlTimeout.nanos.val < 1000000000 ∧
        config.confirmationField = name ∧
        ofValue? config.toValue = some config ∧
        ((∃ validator, Validator.ofConfig config = .ok validator) ↔
          seconds * 1000000000 + nanos ≠ 0 ∧
            ∃ char ∈ name.toList, Text.isBlank char = false))) := by
  refine ⟨ofValue?_toValue, ?_⟩
  intro value seconds nanos name written
  constructor
  · rw [← Duration.exists_ofParts?_iff, written.ofValue?_eq, ← Option.isSome_iff_exists,
      Option.isSome_map, Option.isSome_iff_exists]
  · intro config read
    obtain ⟨sum, rfl⟩ := (written.ofValue?_eq_some_iff config).1 read
    refine ⟨sum, config.activeUrlTimeout.nanos.isLt, rfl, ofValue?_toValue config, ?_⟩
    rw [Validator.exists_ofConfig_iff, ← sum, ← Nat.pos_iff_ne_zero]
    exact ⟨fun valid => ⟨valid.timed, valid.named⟩, fun both => ⟨both.1, both.2⟩⟩

/-- No seconds and more nanoseconds than a second has, beside an entry of another name. -/
theorem carried_timeout_comes_back :
    let timeout := Value.ofEntries [("secs", .integer 0), ("nanos", .integer 2500000000)]
    let value := Value.ofEntries
      [("active_url_timeout", timeout), ("confirmation_field", .text "Repeat"),
        ("version", .integer 2)]
    IsWritten value 0 2500000000 "Repeat" ∧
    ∃ config,
      ofValue? value = some config ∧ config.activeUrlTimeout.totalNanos = 2500000000 ∧
      ofValue? config.toValue = some config ∧
      ∃ validator, Validator.ofConfig config = .ok validator := by
  intro timeout value
  have parts : Duration.HasParts timeout 0 2500000000 := by
    refine ⟨Value.entry?_ofEntries (by simp) (by simp),
      Value.entry?_ofEntries (by simp) (by simp), ?_, by decide, by decide⟩
    intro name found present
    simpa using Value.mem_of_entry?_ofEntries present
  have written : IsWritten value 0 2500000000 "Repeat" :=
    ⟨⟨timeout, Value.entry?_ofEntries (by simp) (by simp), parts⟩,
      Value.entry?_ofEntries (by simp) (by simp)⟩
  obtain ⟨reads, holds⟩ := settings_come_back.2 value 0 2500000000 "Repeat" written
  obtain ⟨config, read⟩ := reads.2 (by decide)
  obtain ⟨sum, -, -, again, makes⟩ := holds config read
  exact ⟨written, config, read, sum, again, makes.2 ⟨by decide, 'R', by decide, by decide⟩⟩

end Config

end Fieldwise
