import ElementRules.Proofs.Fields

/-!
# What a change reports

Whoever shows a rule refreshes what a change reports, and trusts the rest to be as it was. The
report is exact, and no longer than the reach of the field that was changed
(`Reachable.apply_reports`):

    field ∈ changed        ↔  the field holds something else than before
    changed = []           ↔  the rule is the same
    field ∈ changed        →  field ∈ change.field.reach

Where no field is reported that lists of options depend on, the rule offers what it offered before
(`OfferAlike`).
-/

namespace ElementRules

namespace Rule

/-- Two rules have the same lists of options, and allow the same. -/
structure OfferAlike (a b : Rule) : Prop where
  propertyOptions_eq : a.propertyOptions = b.propertyOptions
  conditionOptions_eq : a.conditionOptions = b.conditionOptions
  valueOptions_eq : a.valueOptions = b.valueOptions
  unitOptions_eq : a.unitOptions = b.unitOptions
  allowsCustomProperty_eq : a.allowsCustomProperty = b.allowsCustomProperty
  allowsCustomValue_eq : a.allowsCustomValue = b.allowsCustomValue
  allowsIgnoringCase_eq : a.allowsIgnoringCase = b.allowsIgnoringCase
  allowsUnits_eq : a.allowsUnits = b.allowsUnits

/-- What a rule offers depends on four fields. -/
theorem offerAlike_of_content {a b : Rule}
    (h : ∀ field : Field, field.affectsOptions = true → a.content field = b.content field) :
    OfferAlike a b := by
  have hcategory : a.category = b.category := h .category rfl
  have hproperty : a.property = b.property := h .property rfl
  have hcondition : a.condition = b.condition := h .condition rfl
  have hunitClass : a.unitClass = b.unitClass := h .unitClass rfl
  exact
    { propertyOptions_eq := by rw [propertyOptions, propertyOptions, hcategory]
      conditionOptions_eq := by rw [conditionOptions, conditionOptions, hcategory, hproperty]
      valueOptions_eq := by rw [valueOptions, valueOptions, hcategory, hproperty, hcondition]
      unitOptions_eq := by rw [unitOptions, unitOptions, hunitClass]
      allowsCustomProperty_eq := by rw [allowsCustomProperty, allowsCustomProperty, hcategory]
      allowsCustomValue_eq := by
        rw [allowsCustomValue, allowsCustomValue, hcategory, hproperty, hcondition]
      allowsIgnoringCase_eq := by
        rw [allowsIgnoringCase, allowsIgnoringCase, hcategory, hproperty, hcondition, hunitClass]
      allowsUnits_eq := by rw [allowsUnits, allowsUnits, hunitClass] }

/-! ## Reports -/

theorem mem_changedFields_iff (before after : Rule) (field : Field) :
    field ∈ changedFields before after ↔ before.content field ≠ after.content field := by
  unfold changedFields
  rw [List.mem_filter, differsIn_iff]
  exact and_iff_right (LawfulTagged.mem_all field)

theorem changedFields_eq_nil_iff {before after : Rule} (hid : before.id = after.id) :
    changedFields before after = [] ↔ before = after := by
  rw [List.eq_nil_iff_forall_not_mem]
  constructor
  · intro hnone
    apply eq_of_content hid
    intro field
    by_contra hcontent
    exact hnone field ((mem_changedFields_iff before after field).2 hcontent)
  · rintro rfl field hmem
    exact (mem_changedFields_iff before before field).1 hmem rfl

variable {rule : Rule}

theorem Grammatical.changedFields_edit_subset (h : rule.Grammatical) (change : Change) :
    changedFields rule (rule.edit change) ⊆ change.field.reach := by
  intro field hmem
  by_contra hreach
  have hkept := h.content_edit_of_not_mem_reach change field hreach
  exact (mem_changedFields_iff _ _ _).1 hmem hkept.symm

theorem offerAlike_of_changedFields {before after : Rule}
    (h : (changedFields before after).any Field.affectsOptions = false) :
    OfferAlike before after := by
  apply offerAlike_of_content
  intro field haffects
  by_contra hcontent
  have hmem := (mem_changedFields_iff before after field).2 hcontent
  exact List.any_eq_false.1 h field hmem haffects

/-- **A change reports exactly what it changed**, each field once, and changes nothing out of the
reach of the field that it names; the id is no field and stays. Where the report has no field that
affects options, the rule still offers the same. -/
theorem Reachable.apply_reports (h : rule.Reachable) (change : Change) :
    let result := (rule.apply change).1
    let changed := (rule.apply change).2
    (changed.Nodup ∧ ∀ field, field ∈ changed ↔ rule.content field ≠ result.content field) ∧
      (changed = [] ↔ result = rule) ∧
      result.id = rule.id ∧
      changed ⊆ change.field.reach ∧
      (changed.any Field.affectsOptions = false → OfferAlike rule result) := by
  have hid : rule.id = (rule.edit change).id := (rule.id_edit change).symm
  have hfields : (Tagged.all : List Field).Nodup := by decide
  refine ⟨⟨hfields.filter _, mem_changedFields_iff _ _⟩, ?_, hid.symm,
    h.grammatical.changedFields_edit_subset change, offerAlike_of_changedFields⟩
  exact (changedFields_eq_nil_iff hid).trans eq_comm

/-- *The name of the family contains “door”*, in whatever case. -/
def caselessRule : Rule :=
  [.condition .contains, .value "door", .ignoreCase true].foldl edit (create (.ofNat 1) .family)

/-- Another property takes everything in its reach along; another value goes alone. -/
theorem caselessRule_apply_reports :
    caselessRule.Reachable ∧ OfferAlike caselessRule (caselessRule.apply (.value "window")).1 ∧
      let inPlace := caselessRule.apply (.property "Is In Place")
      Field.ignoreCase ∈ inPlace.2 ∧ inPlace.2 ⊆ [.property, .condition, .value, .ignoreCase] ∧
        Field.unit ∉ inPlace.2 ∧ inPlace.1 ≠ caselessRule ∧ inPlace.1.id = caselessRule.id := by
  have h : caselessRule.Reachable := (Reachable.created _ _).foldl_edit _
  obtain ⟨⟨-, hmem⟩, hnil, hid, hreach, -⟩ := h.apply_reports (.property "Is In Place")
  obtain ⟨-, -, -, -, hoffer⟩ := h.apply_reports (.value "window")
  have hflag : Field.ignoreCase ∈ (caselessRule.apply (.property "Is In Place")).2 := by
    rw [hmem]
    show caselessRule.ignoreCase ≠ (caselessRule.apply (.property "Is In Place")).1.ignoreCase
    decide +kernel
  refine ⟨h, hoffer (by decide +kernel), hflag, hreach, ?_, ?_, hid⟩
  · intro hunit
    exact absurd (hreach hunit) (by decide)
  · intro hsame
    rw [hnil.2 hsame] at hflag
    exact List.not_mem_nil hflag

end Rule

end ElementRules
