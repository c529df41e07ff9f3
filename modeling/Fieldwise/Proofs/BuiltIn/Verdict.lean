import Fieldwise.Proofs.BuiltIn.Demand

/-!
Contract: the verdicts of the built-in rules.

Owns: for each keyword the condition under which a value passes, said of the value
and the parameter as they are, and the proof that the predicate of each keyword
demands its type and its parameter in this order and then decides that condition.

Does **not** own: the formats of texts (`Fieldwise.Format`, `Fieldwise.Url`), which
the conditions refer to, nor what the libraries behind some of them do.
-/

set_option autoImplicit false

namespace Fieldwise

namespace Check

/-- A size is cut off at the greatest integer of 64 bits. -/
theorem toInt_lengthOf (size : Nat) :
    (lengthOf size).toInt = (min size 9223372036854775807 : Nat) := by
  rw [lengthOf]
  cases fits : Text.toInt64? size with
  | some length =>
      obtain ⟨⟨-, most⟩, value⟩ := (Text.toInt64?_eq_some_iff size length).1 fits
      rw [Option.getD_some, value]
      omega
  | none =>
      have great : ¬ IsInt64 size := fun inRange => by
        obtain ⟨word, same⟩ := inRange.exists_word
        rw [← same, Text.toInt64?_toInt] at fits
        cases fits
      have greatest : Int64.maxValue.toInt = 9223372036854775807 := by decide
      rw [Option.getD_none, greatest]
      unfold IsInt64 at great
      omega

/-- A size relates to a limit, as numbers without limits. -/
def SizeBound.Relates : SizeBound → Int → Int → Prop
  | .atMost, size, limit => size ≤ limit
  | .atLeast, size, limit => limit ≤ size
  | .exactly, size, limit => size = limit

instance SizeBound.decidableRelates (bound : SizeBound) (size limit : Int) :
    Decidable (bound.Relates size limit) :=
  match bound with
  | .atMost => inferInstanceAs (Decidable (size ≤ limit))
  | .atLeast => inferInstanceAs (Decidable (limit ≤ size))
  | .exactly => inferInstanceAs (Decidable (size = limit))

/-- A size keeps to a bound. What counts of it is at most the greatest integer of 64
bits. -/
def SizeBound.Keeps (bound : SizeBound) (size : Nat) (limit : Int) : Prop :=
  bound.Relates (min size 9223372036854775807 : Nat) limit

instance SizeBound.decidableKeeps (bound : SizeBound) (size : Nat) (limit : Int) :
    Decidable (bound.Keeps size limit) :=
  inferInstanceAs (Decidable (bound.Relates _ _))

theorem SizeBound.holds_eq_true_iff (bound : SizeBound) (size : Nat) (limit : Int64) :
    bound.holds size limit = true ↔ bound.Keeps size limit.toInt := by
  rw [Keeps, ← toInt_lengthOf]
  cases bound <;> exact decide_eq_true_iff

/-- A number stands in a relation to a threshold, as numbers without limits. -/
def Comparison.Relates : Comparison → Int → Int → Prop
  | .greater, number, threshold => threshold < number
  | .less, number, threshold => number < threshold
  | .atLeast, number, threshold => threshold ≤ number
  | .atMost, number, threshold => number ≤ threshold

theorem Comparison.holds_eq_true_iff (relation : Comparison) (number threshold : Int64) :
    relation.holds number threshold = true ↔
      relation.Relates number.toInt threshold.toInt := by
  cases relation <;> exact decide_eq_true_iff

end Check

/-- An answer is a confirmation if it is positive and comes within the timeout. -/
theorem Timer.confirms_iff (timer : Timer) (timeout : Duration) (probe : Probe) :
    timer.confirms timeout probe = true ↔
      probe.reachable = true ∧ probe.delay.totalNanos ≤ timeout.totalNanos := by
  rw [confirms, timer.await_eq]
  by_cases within : probe.delay.totalNanos ≤ timeout.totalNanos
  · rw [if_pos within, Option.getD_some]
    exact (and_iff_left within).symm
  · rw [if_neg within, Option.getD_none]
    exact iff_of_false Bool.false_ne_true fun confirmed => within confirmed.2

/-- The condition under which a value passes the rule of a keyword. -/
def Keyword.Passes
    [Libraries]
    (reachability : Reachability)
    (timeout : Duration)
    (companion : Companion)
    (value : Value)
    (parameter : Option Parameter) :
    Keyword → Prop
  | .required => value ≠ .null ∧ value ≠ .text "" ∧ value ≠ .list [] ∧ value ≠ .object []
  | .accepted =>
      value = .text "yes" ∨ value = .text "on" ∨ value = .integer 1 ∨ value = .boolean true
  | .confirmed => ∃ held, companion.value = some held ∧ held.same value = true
  | .max =>
      ∃ limit,
        parameter = some (.integer limit) ∧
          Check.SizeBound.atMost.Keeps value.extent limit.toInt
  | .min =>
      ∃ limit,
        parameter = some (.integer limit) ∧
          Check.SizeBound.atLeast.Keeps value.extent limit.toInt
  | .size =>
      ∃ limit,
        parameter = some (.integer limit) ∧
          Check.SizeBound.exactly.Keeps value.extent limit.toInt
  | .greater =>
      ∃ number limit,
        value = .integer number ∧ parameter = some (.integer limit) ∧ limit.toInt < number
  | .less =>
      ∃ number limit,
        value = .integer number ∧ parameter = some (.integer limit) ∧ number < limit.toInt
  | .atLeast =>
      ∃ number limit,
        value = .integer number ∧ parameter = some (.integer limit) ∧ limit.toInt ≤ number
  | .atMost =>
      ∃ number limit,
        value = .integer number ∧ parameter = some (.integer limit) ∧ number ≤ limit.toInt
  | .between =>
      ∃ number given lowText highText low high,
        value = .integer number ∧ parameter = some given ∧ given.items = [lowText, highText] ∧
          Check.bound? lowText = some low ∧ Check.bound? highText = some high ∧
          low.toInt ≤ number ∧ number ≤ high.toInt
  | .oneOf =>
      ∃ content given, value = .text content ∧ parameter = some given ∧ content ∈ given.items
  | .noneOf =>
      ∃ content given, value = .text content ∧ parameter = some given ∧ content ∉ given.items
  | .doesntEndWith =>
      ∃ content given,
        value = .text content ∧ parameter = some given ∧ ¬ given.chars <:+ content.toList
  | .doesntStartWith =>
      ∃ content given,
        value = .text content ∧ parameter = some given ∧ ¬ given.chars <+: content.toList
  | .dateFormat =>
      ∃ content given,
        value = .text content ∧ parameter = some given ∧
          Format.isDateOf Libraries.dates given.toText content.toList = true
  | .email => ∃ content, value = .text content ∧ Format.isEmail content.toList = true
  | .url =>
      ∃ content,
        value = .text content ∧ Url.isReference Libraries.addresses content.toList = true
  | .ipFormat => ∃ content, value = .text content ∧ Format.isIpAddress content.toList = true
  | .date =>
      ∃ content, value = .text content ∧ Format.isDate Libraries.dates content.toList = true
  | .macAddress => ∃ content, value = .text content ∧ Format.isMacAddress content.toList = true
  | .activeUrl =>
      ∃ content,
        value = .text content ∧ (reachability content).reachable = true ∧
          (reachability content).delay.totalNanos ≤ timeout.totalNanos

namespace Shape

theorem eq_text_of_read?
    {value : Value} {content : String}
    (read : Shape.text.read? value = some content) :
    value = .text content := by
  cases value with
  | text held => exact congrArg Value.text (Option.some.inj read)
  | _ => cases read

theorem eq_integer_of_read?
    {value : Value} {word : Int64}
    (read : Shape.integer.read? value = some word) :
    value = .integer word.toInt := by
  cases value with
  | integer number =>
      have same := ((Text.toInt64?_eq_some_iff number word).1 read).2
      exact congrArg Value.integer same.symm
  | _ => cases read

theorem extent_of_read?
    {value : Value} {size : Nat}
    (read : Shape.sized.read? value = some size) :
    value.extent = size :=
  ((sizeOf?_eq_some_iff value size).1 read).2

end Shape

namespace Predicate

/-- A predicate follows a keyword and a condition: it asks for the keyword's type of
value, then refuses every parameter that does not meet the keyword's need, and on the
others decides the condition. -/
structure Follows
    (predicate : Predicate)
    (keyword : Keyword)
    (passes : Companion → Value → Option Parameter → Prop) :
    Prop where
  expects : predicate.expects = keyword.subject
  refuses :
    ∀ {value : Value} {parameter : Option Parameter} {fault : Fault} (context : RuleContext),
      keyword.subject.Fits value →
        keyword.need.Refuses (.builtIn keyword) parameter fault →
          predicate.judge value parameter context = .error fault
  decides :
    ∀ {value : Value} {parameter : Option Parameter} (context : RuleContext),
      keyword.subject.Fits value →
        keyword.need.Meets parameter →
          ∃ verdict,
            predicate.judge value parameter context = .ok verdict ∧
              (verdict = true ↔ passes context.companion value parameter)

theorem judge_of_read?
    (predicate : Predicate)
    {value : Value} {carried : predicate.expects.Carrier}
    (read : predicate.expects.read? value = some carried)
    (parameter : Option Parameter)
    (context : RuleContext) :
    predicate.judge value parameter context = predicate.check carried parameter context := by
  rw [judge, Shape.demand, read]

/-! ## Families -/

section Families

variable {keyword : Keyword}

/-- The predicates that take an argument for their test from the parameter. -/
theorem ofCheck_follows
    {Argument : Type} {need : Need}
    (shape : Shape)
    {demand : Option Parameter → Except Fault Argument}
    (test : shape.Carrier → Argument → Bool)
    {passes : Companion → Value → Option Parameter → Prop}
    (subject : keyword.subject = shape)
    (needs : keyword.need = need)
    (refuses : ∀ {parameter fault},
      need.Refuses (.builtIn keyword) parameter fault → demand parameter = .error fault)
    (decides : ∀ {value carried parameter} (companion : Companion),
      shape.read? value = some carried → need.Meets parameter →
        ∃ argument,
          demand parameter = .ok argument ∧
            (test carried argument = true ↔ passes companion value parameter)) :
    (ofCheck shape fun carried parameter =>
      (demand parameter).map (test carried)).Follows keyword passes := by
  subst subject needs
  refine ⟨rfl, ?_, ?_⟩
  · intro value parameter fault context fits refused
    rw [Shape.fits_iff_read?_isSome, Option.isSome_iff_exists] at fits
    obtain ⟨carried, read⟩ := fits
    rw [judge_of_read? (ofCheck keyword.subject _) read]
    simp only [ofCheck, refuses refused]
    rfl
  · intro value parameter context fits met
    rw [Shape.fits_iff_read?_isSome, Option.isSome_iff_exists] at fits
    obtain ⟨carried, read⟩ := fits
    obtain ⟨argument, demanded, agrees⟩ := decides context.companion read met
    refine ⟨test carried argument, ?_, agrees⟩
    rw [judge_of_read? (ofCheck keyword.subject _) read]
    simp only [ofCheck, demanded]
    rfl

/-- The predicates that take nothing from the parameter. Whether they test null is
left open. -/
theorem ofTest_follows
    (predicate : Predicate)
    (test : Companion → predicate.expects.Carrier → Bool)
    {passes : Companion → Value → Option Parameter → Prop}
    (subject : keyword.subject = predicate.expects)
    (needs : keyword.need = .nothing)
    (check : ∀ carried parameter context,
      predicate.check carried parameter context = .ok (test context.companion carried))
    (decides : ∀ {value carried} (companion : Companion) (parameter : Option Parameter),
      predicate.expects.read? value = some carried →
        (test companion carried = true ↔ passes companion value parameter)) :
    predicate.Follows keyword passes := by
  refine ⟨subject.symm, ?_, ?_⟩
  · intro value parameter fault context fits refused
    rw [needs] at refused
    cases refused with
    | missing needed => exact absurd rfl needed
  · intro value parameter context fits met
    rw [subject, Shape.fits_iff_read?_isSome, Option.isSome_iff_exists] at fits
    obtain ⟨carried, read⟩ := fits
    refine ⟨test context.companion carried, ?_, decides context.companion parameter read⟩
    rw [judge_of_read? predicate read, check]

theorem Follows.of_iff
    {predicate : Predicate}
    {first second : Companion → Value → Option Parameter → Prop}
    (follows : predicate.Follows keyword first)
    (same : ∀ companion value parameter,
      first companion value parameter ↔ second companion value parameter) :
    predicate.Follows keyword second where
  expects := follows.expects
  refuses := follows.refuses
  decides := by
    intro value parameter context fits met
    obtain ⟨verdict, judged, agrees⟩ := follows.decides context fits met
    exact ⟨verdict, judged, agrees.trans (same _ _ _)⟩

/-- The predicates that test a text alone. -/
theorem textTest_follows
    (subject : keyword.subject = .text)
    (needs : keyword.need = .nothing)
    (test : String → Bool) :
    (ofTest .text test).Follows keyword fun _ value _ =>
      ∃ content, value = .text content ∧ test content = true := by
  refine ofTest_follows (ofTest .text test) (fun _ => test) subject needs (fun _ _ _ => rfl) ?_
  intro value (content : String) companion parameter read
  obtain rfl := Shape.eq_text_of_read? read
  show test content = true ↔ _
  simp

/-- The predicates that compare a text with a text. -/
theorem scalarTest_follows
    (subject : keyword.subject = .text)
    (needs : keyword.need = .single)
    (test : String → String → Bool) :
    (ofCheck .text fun (content : String) parameter =>
      (Parameter.demandText (.builtIn keyword) parameter).map (test content)).Follows keyword
      fun _ value parameter =>
        ∃ content given,
          value = .text content ∧ parameter = some given ∧
            test content given.toText = true := by
  refine ofCheck_follows .text test subject needs Parameter.demandText_of_refuses ?_
  intro value (content : String) parameter companion read met
  obtain rfl := Shape.eq_text_of_read? read
  obtain ⟨given, rfl, demanded⟩ := Parameter.demandText_of_meets (.builtIn keyword) met
  exact ⟨given.toText, demanded, by simp⟩

/-- The predicates that compare a text with a list of texts. -/
theorem itemsTest_follows
    (subject : keyword.subject = .text)
    (needs : keyword.need = .items)
    (test : String → List String → Bool) :
    (ofCheck .text fun (content : String) parameter =>
      (Parameter.demandItems (.builtIn keyword) parameter).map (test content)).Follows keyword
      fun _ value parameter =>
        ∃ content given,
          value = .text content ∧ parameter = some given ∧
            test content given.items = true := by
  refine ofCheck_follows .text test subject needs Parameter.demandItems_of_refuses ?_
  intro value (content : String) parameter companion read met
  obtain rfl := Shape.eq_text_of_read? read
  cases met with
  | items given => exact ⟨given.items, rfl, by simp⟩

end Families

theorem sizeBound_follows (bound : Check.SizeBound) :
    (sizeBound bound).Follows bound.keyword fun _ value parameter =>
      ∃ limit, parameter = some (.integer limit) ∧ bound.Keeps value.extent limit.toInt := by
  have subject : bound.keyword.subject = .sized := by cases bound <;> rfl
  have needs : bound.keyword.need = .integer := by cases bound <;> rfl
  refine ofCheck_follows .sized bound.holds subject needs Parameter.demandInteger_of_refuses ?_
  intro value (size : Nat) parameter companion read met
  obtain rfl := Shape.extent_of_read? read
  cases met with
  | integer limit =>
      refine ⟨limit, rfl, (bound.holds_eq_true_iff _ _).trans ?_⟩
      simp

theorem comparison_follows (relation : Check.Comparison) :
    (comparison relation).Follows relation.keyword fun _ value parameter =>
      ∃ number limit,
        value = .integer number ∧ parameter = some (.integer limit) ∧
          relation.Relates number limit.toInt := by
  have subject : relation.keyword.subject = .integer := by cases relation <;> rfl
  have needs : relation.keyword.need = .integer := by cases relation <;> rfl
  refine ofCheck_follows .integer relation.holds subject needs
    Parameter.demandInteger_of_refuses ?_
  intro value (number : Int64) parameter companion read met
  obtain rfl := Shape.eq_integer_of_read? read
  cases met with
  | integer limit =>
      refine ⟨limit, rfl, (relation.holds_eq_true_iff _ _).trans ?_⟩
      simp

/-! ## Single predicates -/

theorem isBetween_eq_true_iff (number : Int64) (items : List String) :
    Check.isBetween number items = true ↔
      ∃ lowText highText low high,
        items = [lowText, highText] ∧ Check.bound? lowText = some low ∧
          Check.bound? highText = some high ∧
          low.toInt ≤ number.toInt ∧ number.toInt ≤ high.toInt := by
  unfold Check.isBetween
  constructor
  · intro holds
    split at holds
    · rename_i low high bounds
      obtain ⟨lowText, rest, rfl, lowRead, restRead⟩ := List.map_eq_cons_iff.1 bounds
      obtain ⟨highText, none, rfl, highRead, noneRead⟩ := List.map_eq_cons_iff.1 restRead
      obtain rfl := List.map_eq_nil_iff.1 noneRead
      simp only [Bool.and_eq_true, decide_eq_true_eq] at holds
      exact ⟨lowText, highText, low, high, rfl, lowRead, highRead, holds.1, holds.2⟩
    · cases holds
  · intro within
    rcases within with ⟨lowText, highText, low, high, rfl, lowRead, highRead, above, below⟩
    simp [lowRead, highRead, above, below]

theorem between_follows :
    between.Follows .between fun _ value parameter =>
      ∃ number given lowText highText low high,
        value = .integer number ∧ parameter = some given ∧ given.items = [lowText, highText] ∧
          Check.bound? lowText = some low ∧ Check.bound? highText = some high ∧
          low.toInt ≤ number ∧ number ≤ high.toInt := by
  refine ofCheck_follows .integer Check.isBetween rfl rfl Parameter.demandItems_of_refuses ?_
  intro value (number : Int64) parameter companion read met
  obtain rfl := Shape.eq_integer_of_read? read
  cases met with
  | items given =>
      refine ⟨given.items, rfl, (isBetween_eq_true_iff number given.items).trans ?_⟩
      constructor
      · intro within
        rcases within with ⟨lowText, highText, low, high, listed, bounds⟩
        exact ⟨_, _, lowText, highText, low, high, rfl, rfl, listed, bounds⟩
      · intro within
        rcases within with ⟨_, _, lowText, highText, low, high, sameNumber, sameGiven, listed, bounds⟩
        obtain rfl := Value.integer.inj sameNumber
        obtain rfl := Option.some.inj sameGiven
        exact ⟨lowText, highText, low, high, listed, bounds⟩

theorem required_follows :
    required.Follows .required fun _ value _ =>
      value ≠ .null ∧ value ≠ .text "" ∧ value ≠ .list [] ∧ value ≠ .object [] := by
  refine ofTest_follows required (fun _ (value : Value) => !Check.isEmpty value) rfl rfl
    (fun _ _ _ => rfl) ?_
  intro value carried companion parameter read
  obtain rfl : value = carried := Option.some.inj read
  cases value <;> simp [Check.isEmpty]

theorem accepted_follows :
    accepted.Follows .accepted fun _ value _ =>
      value = .text "yes" ∨ value = .text "on" ∨ value = .integer 1 ∨
        value = .boolean true := by
  refine ofTest_follows accepted (fun _ (value : Value) => Check.isAccepted value) rfl rfl
    (fun _ _ _ => rfl) ?_
  intro value carried companion parameter read
  obtain rfl : value = carried := Option.some.inj read
  cases value with
  | integer number =>
      show decide (Text.toInt64? number = some 1) = true ↔ _
      rw [decide_eq_true_eq, Text.toInt64?_eq_some_iff]
      have one : Int64.toInt 1 = 1 := by decide
      rw [one]
      constructor
      · intro isOne
        rcases isOne with ⟨-, rfl⟩
        simp
      · intro same
        obtain rfl : number = 1 := by simpa using same
        exact ⟨by unfold IsInt64; omega, rfl⟩
  | _ => simp [Check.isAccepted, Value.int64?]

theorem confirmed_follows :
    confirmed.Follows .confirmed fun companion value _ =>
      ∃ held, companion.value = some held ∧ held.same value = true := by
  refine ofTest_follows confirmed (fun companion (value : Value) => companion.confirms value)
    rfl rfl (fun _ _ _ => rfl) ?_
  intro value carried companion parameter read
  obtain rfl : value = carried := Option.some.inj read
  exact Option.any_eq_true _ _

/-! ## Every keyword -/

/-- The predicate behind each keyword follows the keyword and its condition. -/
theorem ofKeyword_follows
    [Libraries]
    (reachability : Reachability)
    (timeout : Duration)
    (keyword : Keyword) :
    (ofKeyword reachability timeout keyword).Follows keyword
      fun companion value parameter =>
        keyword.Passes reachability timeout companion value parameter := by
  cases keyword with
  | required => exact required_follows
  | accepted => exact accepted_follows
  | confirmed => exact confirmed_follows
  | max => exact sizeBound_follows .atMost
  | min => exact sizeBound_follows .atLeast
  | size => exact sizeBound_follows .exactly
  | greater => exact comparison_follows .greater
  | less => exact comparison_follows .less
  | atLeast => exact comparison_follows .atLeast
  | atMost => exact comparison_follows .atMost
  | between => exact between_follows
  | oneOf =>
      refine (itemsTest_follows rfl rfl fun content items => items.contains content).of_iff ?_
      simp [Keyword.Passes]
  | noneOf =>
      refine (itemsTest_follows rfl rfl fun content items => !items.contains content).of_iff ?_
      simp [Keyword.Passes]
  | doesntEndWith =>
      refine (scalarTest_follows rfl rfl fun content affix =>
        !affix.toList.isSuffixOf content.toList).of_iff ?_
      simp [Keyword.Passes, Parameter.toText, ← List.isSuffixOf_iff_suffix]
  | doesntStartWith =>
      refine (scalarTest_follows rfl rfl fun content affix =>
        !affix.toList.isPrefixOf content.toList).of_iff ?_
      simp [Keyword.Passes, Parameter.toText, ← List.isPrefixOf_iff_prefix]
  | dateFormat =>
      exact scalarTest_follows rfl rfl fun content token =>
        Format.isDateOf Libraries.dates token content.toList
  | email => exact textTest_follows rfl rfl fun content => Format.isEmail content.toList
  | url =>
      exact textTest_follows rfl rfl fun content =>
        Url.isReference Libraries.addresses content.toList
  | ipFormat => exact textTest_follows rfl rfl fun content => Format.isIpAddress content.toList
  | date =>
      exact textTest_follows rfl rfl fun content => Format.isDate Libraries.dates content.toList
  | macAddress => exact textTest_follows rfl rfl fun content => Format.isMacAddress content.toList
  | activeUrl =>
      refine (textTest_follows rfl rfl fun content =>
        Libraries.timer.confirms timeout (reachability content)).of_iff ?_
      simp [Keyword.Passes, Timer.confirms_iff]

end Predicate

end Fieldwise
