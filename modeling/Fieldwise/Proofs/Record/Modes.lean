import Fieldwise.Proofs.Engine.Dynamic

/-!
Contract: the agreement of typed and dynamic validation.

Owns: the dynamic record and the registrations that a schema stands for, and the
proof that validation by the schema and validation of the dynamic record by those
registrations report the same blocks of errors, and under each name the same errors.

Does **not** own: the blocks of a report on a dynamic record
(`Fieldwise.Proofs.Engine.Dynamic`).

A schema is read in order of declaration, late and field by field; a rule book is
filled early, in the order of the registrations, and visited in an order of its own.
Both come to the same blocks, since no name is declared twice. The errors under a name
are its block only where predicates name the field they are asked about.
-/

set_option autoImplicit false

namespace Fieldwise

namespace Schema

variable {Record : Type}

/-- The values of the declared fields by name. -/
def entries (schema : Schema Record) (record : Record) : List (String × Value) :=
  schema.fields.map fun field => (field.name, valueOf record field)

/-- The dynamic record with the values of the declared fields. -/
def toDynamic (schema : Schema Record) (record : Record) : DynamicRecord :=
  Table.ofList (schema.entries record)

theorem map_fst_entries (schema : Schema Record) (record : Record) :
    (schema.entries record).map Prod.fst = schema.names := by
  rw [entries, List.map_map]
  rfl

/-- Of fields with one name the first is found both ways. -/
theorem bind_lookup_eq (schema : Schema Record) (record : Record) (name : String) :
    (schema.bind record).lookup name = (schema.entries record).lookup name := by
  obtain ⟨fields⟩ := schema
  unfold bind entries
  dsimp only
  induction fields with
  | nil => rfl
  | cons field rest inductionHypothesis =>
      rw [List.map_cons, lookup_cons_ite, List.find?_cons]
      by_cases same : name = field.name
      · subst same
        simp
      · simpa [same, Ne.symm same] using inductionHypothesis

theorem toDynamic_get?
    {schema : Schema Record}
    (distinct : schema.names.Nodup)
    (record : Record) :
    (schema.toDynamic record).get? = (schema.bind record).lookup := by
  funext name
  rw [bind_lookup_eq]
  apply Table.get?_ofList
  rw [map_fst_entries]
  exact distinct

theorem toDynamic_get?_of_mem
    {schema : Schema Record} {field : SchemaField Record}
    (distinct : schema.names.Nodup)
    (record : Record)
    (member : field ∈ schema.fields) :
    (schema.toDynamic record).get? field.name = some (valueOf record field) := by
  have keys : ((schema.entries record).map Prod.fst).Nodup := by
    rw [map_fst_entries]
    exact distinct
  apply Table.get?_insertAll_eq_some keys
  exact List.mem_map.2 ⟨field, member, rfl⟩

end Schema

/-- The registration of what a field declares. -/
def SchemaField.registration {Record : Type} (field : SchemaField Record) : Registration :=
  .batch field.name field.spec

/-- Where no name is declared twice, a field's registration alone gives it rules. -/
theorem Registration.rulesFor_of_mem
    {Record : Type}
    {fields : List (SchemaField Record)} {field : SchemaField Record}
    (distinct : (fields.map SchemaField.name).Nodup)
    (member : field ∈ fields) :
    rulesFor field.name (fields.map SchemaField.registration) =
      Rule.parseSpec field.spec.toList := by
  induction fields with
  | nil => cases member
  | cons head rest inductionHypothesis =>
      obtain ⟨fresh, distinctRest⟩ := List.nodup_cons.1 distinct
      rw [List.map_cons, rulesFor_cons]
      rcases List.mem_cons.1 member with rfl | later
      · have others : rulesFor field.name (rest.map SchemaField.registration) = [] := by
          apply rulesFor_of_absent
          rw [List.map_map]
          exact fresh
        rw [others, List.append_nil]
        exact if_pos rfl
      · have other : head.registration.field ≠ field.name := by
          intro same
          exact fresh (List.mem_map.2 ⟨field, later, same.symm⟩)
        rw [if_neg other, List.nil_append]
        exact inductionHypothesis distinctRest later

namespace Validator

section Modes

variable {Record : Type} {schema : Schema Record} {order : List (SchemaField Record)}

/-- A validator whose rules are what the fields of a schema declare, registered in
some order from nothing. -/
def ofDeclared
    (config : Config)
    (catalogue : Catalogue)
    (order : List (SchemaField Record)) :
    Validator :=
  { config
    catalogue
    rules := RuleBook.registerAll Table.empty (order.map SchemaField.registration) }

variable (config : Config) (catalogue : Catalogue)

theorem ofDeclared_keys_perm
    (distinct : schema.names.Nodup)
    (permuted : order.Perm schema.fields) :
    (ofDeclared config catalogue order).rules.keys.Perm schema.names := by
  apply (List.perm_ext_iff_of_nodup (ofDeclared config catalogue order).rules.nodup distinct).2
  intro name
  refine (RuleBook.mem_keys_registerAll Table.empty _ name).trans ?_
  have names : (order.map SchemaField.registration).map Registration.field =
      order.map SchemaField.name := by
    rw [List.map_map]
    rfl
  rw [names, (permuted.map SchemaField.name).mem_iff]
  constructor
  · intro either
    rcases either with present | declared
    · cases present
    · exact declared
  · exact Or.inr

/-- The block of a declared field is what the field's own specification leads to. -/
theorem ofDeclared_errorsFor
    (distinct : schema.names.Nodup)
    (permuted : order.Perm schema.fields)
    (record : Record)
    {field : SchemaField Record}
    (member : field ∈ schema.fields) :
    (ofDeclared config catalogue order).errorsFor (schema.toDynamic record) field.name =
      catalogue.errorsOf
        ((schema.bind record).companion config.confirmationField)
        field.name (Schema.valueOf record field) (Rule.parseSpec field.spec.toList) := by
  have distinctOrder : (order.map SchemaField.name).Nodup :=
    (permuted.map SchemaField.name).nodup_iff.2 distinct
  have rules : (ofDeclared config catalogue order).rules.rulesOf field.name =
      Rule.parseSpec field.spec.toList := by
    refine (RuleBook.rulesOf_registerAll Table.empty _ field.name).trans ?_
    exact Registration.rulesFor_of_mem distinctOrder (permuted.mem_iff.2 member)
  have companion :
      ((schema.toDynamic record).bind []).companion config.confirmationField =
        (schema.bind record).companion config.confirmationField := by
    unfold FieldSource.companion
    rw [← Schema.toDynamic_get? distinct record]
    rfl
  unfold errorsFor
  rw [rules, Schema.toDynamic_get?_of_mem distinct record member]
  exact congrArg (fun held => catalogue.errorsOf held _ _ _) companion

theorem validateSchema_errors
    (distinct : schema.names.Nodup)
    (permuted : order.Perm schema.fields)
    (record : Record) :
    ((ofDeclared config catalogue order).validateSchema schema record).errors =
      schema.names.flatMap
        ((ofDeclared config catalogue order).errorsFor (schema.toDynamic record)) := by
  rw [validateSchema, validate_errors, Schema.names, List.flatMap_map]
  unfold Schema.bind
  rw [List.flatMap_map]
  apply List.flatMap_congr
  intro field member
  exact (ofDeclared_errorsFor config catalogue distinct permuted record member).symm

end Modes

/-- **Typed and dynamic validation agree.** Let no name of a schema be declared
twice, and let the rules of a validator be what the schema's fields declare,
registered in any order. Then the report on a record and every report on the dynamic
record with the same values consist of the same blocks, one for each declared field,
and have as many errors. The errors seen under a field are its block where each error
names the field that failed, as the built-in predicates see to; under a name that a
predicate gives to errors of several fields, the order of the blocks shows. -/
theorem schema_agrees_with_dynamic
    {Record : Type} {schema : Schema Record} {order : List (SchemaField Record)}
    (distinct : schema.names.Nodup)
    (permuted : order.Perm schema.fields)
    (config : Config)
    (catalogue : Catalogue)
    (record : Record)
    {dynamic : Report}
    (reported :
      (ofDeclared config catalogue order).MayReport (schema.toDynamic record) dynamic) :
    let validator := ofDeclared config catalogue order
    let typed := validator.validateSchema schema record
    let blockOf := validator.errorsFor (schema.toDynamic record)
    typed.errors = schema.names.flatMap blockOf ∧
    (∃ names : List String,
      names.Perm schema.names ∧ dynamic.errors = names.flatMap blockOf) ∧
    dynamic.size = typed.size ∧
    (∀ name, (dynamic.ofField name).Perm (typed.ofField name)) ∧
    (catalogue.NamesFields → ∀ name, dynamic.ofField name = typed.ofField name) := by
  intro validator typed blockOf
  have typedBlocks : typed.errors = schema.names.flatMap blockOf :=
    validateSchema_errors config catalogue distinct permuted record
  have dynamicReports : validator.ReportsBlocks (schema.toDynamic record) dynamic :=
    (validator.mayReport_iff_reportsBlocks _ _).1 reported
  obtain ⟨names, visits, dynamicBlocks⟩ := id dynamicReports
  have declared : names.Perm schema.names :=
    visits.trans (ofDeclared_keys_perm config catalogue distinct permuted)
  have rearranged : dynamic.errors.Perm typed.errors := by
    rw [typedBlocks, dynamicBlocks]
    exact declared.flatMap_right blockOf
  refine ⟨typedBlocks, ⟨names, declared, dynamicBlocks⟩, rearranged.length_eq,
    fun name => rearranged.filter _, ?_⟩
  intro named name
  have typedReports : validator.ReportsBlocks (schema.toDynamic record) typed := by
    refine ⟨schema.names, ?_, typedBlocks⟩
    exact (ofDeclared_keys_perm config catalogue distinct permuted).symm
  rw [dynamicReports.ofField_eq named, typedReports.ofField_eq named]

/-- A schema with a companion that has no rules, and a field that may be null. -/
def signupSchema : Schema (String × Option String) :=
  ((Schema.empty.field "Password" "required|confirmed" fun record => .text record.1).field
    "Nickname" "min:2" fun record => .option (record.2.map .text)).field
    "Confirmation_password" "" fun record => .text record.1

/-- The agreement on a record with a null field, the rules registered in the order
opposite to that of declaration. -/
theorem signup_modes_agree :
    signupSchema.names.Nodup ∧ signupSchema.fields.reverse.Perm signupSchema.fields ∧
      (let validator :=
        ofDeclared Config.default
          (Catalogue.builtIn Reachability.offline Config.default.activeUrlTimeout)
          signupSchema.fields.reverse
      ∀ name,
        (validator.validateDynamic (signupSchema.toDynamic ("secret", none))).ofField name =
          (validator.validateSchema signupSchema ("secret", none)).ofField name) := by
  have distinct : signupSchema.names.Nodup := by decide
  have permuted : signupSchema.fields.reverse.Perm signupSchema.fields := List.reverse_perm _
  refine ⟨distinct, permuted, ?_⟩
  have agrees := schema_agrees_with_dynamic distinct permuted Config.default
    (Catalogue.builtIn Reachability.offline Config.default.activeUrlTimeout) ("secret", none)
    (mayReport_validateDynamic _ _)
  exact agrees.2.2.2.2 (Catalogue.builtIn_namesFields _ _)

/-! ## Errors under another name -/

/-- A predicate that refuses every value, and gives the errors of all fields one name. -/
def totalled : Predicate :=
  { Predicate.constant .any false (.ok false) with
    failure := fun _ _ context => FieldError.general "Total" context.field }

def invoiceSchema : Schema Unit :=
  (Schema.empty.field "Net" "totalled" fun _ => .boolean true).field
    "Tax" "totalled" fun _ => .boolean true

/-- Under the one name that the predicate gives, each report shows the order of its
blocks: the fields as they are declared, and the fields as they are visited. -/
theorem misnamed_errors_are_in_visiting_order :
    let validator := ofDeclared Config.default
      (Catalogue.register Table.empty (.other "totalled") totalled) invoiceSchema.fields.reverse
    let dynamic := validator.validateDynamic (invoiceSchema.toDynamic ())
    let typed := validator.validateSchema invoiceSchema ()
    invoiceSchema.names.Nodup ∧ invoiceSchema.fields.reverse.Perm invoiceSchema.fields ∧
      validator.MayReport (invoiceSchema.toDynamic ()) dynamic ∧
      (dynamic.ofField "Total").map FieldError.message = ["Tax", "Net"] ∧
      (typed.ofField "Total").map FieldError.message = ["Net", "Tax"] ∧
      dynamic.ofField "Total" ≠ typed.ofField "Total" := by
  intro validator dynamic typed
  have visited : (dynamic.ofField "Total").map FieldError.message = ["Tax", "Net"] := by decide
  have declared : (typed.ofField "Total").map FieldError.message = ["Net", "Tax"] := by decide
  refine ⟨by decide, List.reverse_perm _, mayReport_validateDynamic _ _, visited, declared, ?_⟩
  intro same
  rw [same, declared] at visited
  exact absurd visited (by decide)

end Validator

end Fieldwise
