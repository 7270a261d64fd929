import AttributeSchema.Conversion
import AttributeSchema.Proofs.Spec.Nesting
import AttributeSchema.Schema

/-!
# Specifications without defaults

What a specification declares about defaults, taken away at every depth. Neither conversion nor the
built-in validators look at it, and a validator that was registered goes on to be shown what it was
shown before; so a value is converted to the same result and judged by the same verdict. Main
statements: `SpecOf.convert_withoutDefaults` and `SpecOf.check_withoutDefaults`.
-/

namespace AttributeSchema

/-- The validator, shown the given members and not those of its rule. Only one that was registered
looks at more of them than a built-in one does. -/
def StructuredKind.showing (members : List (String × SpecOf RuleView)) :
    StructuredKind → StructuredKind
  | .builtin v => .builtin v
  | .custom v => .custom ⟨v.name, fun _ => v.check members⟩

mutual

/-- The rule whose member specifications declare no defaults, at any depth. A validator that was
registered may look at defaults in its verdicts, so it is shown those that were declared. -/
def Rule.withoutDefaults : Rule → Rule
  | .leaf kind param regex => .leaf kind param regex
  | .structured kind members =>
    .structured (kind.showing (Rule.viewMembers members)) (Rule.membersWithoutDefaults members)

/-- The specification without its default and those of its members, and with no wish to have any
filled in. -/
def SpecOf.withoutDefaults : SpecOf Rule → SpecOf Rule
  | ⟨allowPost, allowPut, _, _, convertTo, convertListTo, rules, _, required, enforcePolicy,
      requiredByPolicy, isVisible, isFilter, isSortKey, primaryKey⟩ =>
    { allowPost, allowPut, convertTo, convertListTo, required, enforcePolicy, requiredByPolicy,
      isVisible, isFilter, isSortKey, primaryKey
      rules := Rule.allWithoutDefaults rules }

/-- Some rules without defaults. -/
def Rule.allWithoutDefaults : List Rule → List Rule
  | [] => []
  | r :: rs => r.withoutDefaults :: Rule.allWithoutDefaults rs

/-- The specifications of members without defaults. -/
def Rule.membersWithoutDefaults : List (String × SpecOf Rule) → List (String × SpecOf Rule)
  | [] => []
  | (key, spec) :: members => (key, spec.withoutDefaults) :: Rule.membersWithoutDefaults members

end

namespace SpecOf

variable (spec : Spec)

theorem required_withoutDefaults : spec.withoutDefaults.required = spec.required := by
  cases spec
  rw [withoutDefaults]

theorem allowPut_withoutDefaults : spec.withoutDefaults.allowPut = spec.allowPut := by
  cases spec
  rw [withoutDefaults]

end SpecOf

/-! ## Verdicts -/

mutual

theorem Rule.check_withoutDefaults : (r : Rule) → (v : Json) → r.withoutDefaults.check v = r.check v
  | .leaf _ _ _, _ => by rw [Rule.withoutDefaults]
  | .structured (.builtin kind) members, v => by
    rw [Rule.withoutDefaults, StructuredKind.showing, Rule.check_builtin, Rule.check_builtin,
      Rule.memberChecks_withoutDefaults members]
  | .structured (.custom c) members, v => by
    rw [Rule.withoutDefaults, Rule.check_structured, Rule.check_structured]
    rfl

theorem Rule.checkAll_withoutDefaults : (rules : List Rule) → (v : Json) →
    Rule.checkAll (Rule.allWithoutDefaults rules) v = Rule.checkAll rules v
  | [], _ => by rw [Rule.allWithoutDefaults]
  | r :: rules, v => by
    have hrest : Verdict.all (fun r => r.check v) (Rule.allWithoutDefaults rules) =
        Verdict.all (fun r => r.check v) rules := Rule.checkAll_withoutDefaults rules v
    rw [Rule.allWithoutDefaults, Rule.checkAll, Rule.checkAll, Verdict.all, Verdict.all,
      Rule.check_withoutDefaults r v, hrest]

/-- **Defaults do not matter to the rules.** -/
theorem SpecOf.check_withoutDefaults : (spec : SpecOf Rule) → (v : Json) →
    spec.withoutDefaults.check v = spec.check v
  | ⟨_, _, _, _, _, _, rules, _, _, _, _, _, _, _, _⟩, v => by
    rw [SpecOf.withoutDefaults, SpecOf.check, SpecOf.check, Rule.checkAll_withoutDefaults rules v]

theorem Rule.memberChecks_withoutDefaults : (members : List (String × SpecOf Rule)) →
    Rule.memberChecks (Rule.membersWithoutDefaults members) = Rule.memberChecks members
  | [] => by rw [Rule.membersWithoutDefaults]
  | (key, spec) :: members => by
    have hcheck : (fun v => spec.withoutDefaults.check v) = fun v => spec.check v :=
      funext (SpecOf.check_withoutDefaults spec)
    have hrest := Rule.memberChecks_withoutDefaults members
    rw [Rule.memberChecks_eq_map, Rule.memberChecks_eq_map] at hrest
    rw [Rule.membersWithoutDefaults, Rule.memberChecks_eq_map, Rule.memberChecks_eq_map,
      List.map_cons, List.map_cons, hrest, hcheck, SpecOf.required_withoutDefaults]

end

/-! ## Conversion -/

namespace Conversion

open Rule (allWithoutDefaults membersWithoutDefaults)

mutual

theorem convert_withoutDefaults : (spec : SpecOf Rule) → (v : Json) →
    convert spec.withoutDefaults v = convert spec v
  | ⟨_, _, _, _, convertTo, convertListTo, rules, _, _, _, _, _, _, _, _⟩, v => by
    rw [SpecOf.withoutDefaults, convert, convert]
    cases whole convertTo convertListTo v with
    | ok w => exact convertByRules_withoutDefaults rules w
    | error e => rfl

theorem convertByRules_withoutDefaults : (rules : List Rule) → (v : Json) →
    convertByRules (allWithoutDefaults rules) v = convertByRules rules v
  | [], _ => by rw [allWithoutDefaults]
  | .leaf _ _ _ :: rules, v => by
    rw [allWithoutDefaults, Rule.withoutDefaults, convertByRules, convertByRules,
      convertByRules_withoutDefaults rules v]
  | .structured _ members :: rules, v => by
    have hmembers : convertMembers (membersWithoutDefaults members) = convertMembers members :=
      funext fun ms => convertMembers_withoutDefaults members ms
    rw [allWithoutDefaults, Rule.withoutDefaults, convertByRules, convertByRules, hmembers]
    cases onObjects (convertMembers members) v with
    | ok w => exact convertByRules_withoutDefaults rules w
    | error e => rfl

theorem convertMembers_withoutDefaults : (members : List (String × SpecOf Rule)) →
    (ms : List (String × Json)) →
    convertMembers (membersWithoutDefaults members) ms = convertMembers members ms
  | [], _ => by rw [membersWithoutDefaults]
  | (key, spec) :: members, ms => by
    have hspec : convert spec.withoutDefaults = convert spec :=
      funext fun v => convert_withoutDefaults spec v
    rw [membersWithoutDefaults, convertMembers, convertMembers, hspec]
    cases ms.lookup key with
    | none => exact convertMembers_withoutDefaults members ms
    | some v =>
      dsimp only
      cases convert spec v with
      | ok w => exact convertMembers_withoutDefaults members (Members.insert key w ms)
      | error e => rfl

end

end Conversion

/-- **Defaults do not matter to the conversion.** -/
theorem SpecOf.convert_withoutDefaults (spec : Spec) (v : Json) :
    spec.withoutDefaults.convert v = spec.convert v :=
  Conversion.convert_withoutDefaults spec v

/-! ## Schemas -/

/-- The schema whose specifications declare no defaults, at any depth. -/
def Schema.withoutDefaults (schema : Schema) : Schema :=
  { schema with attributes := schema.attributes.map SpecOf.withoutDefaults }

theorem Schema.declares_withoutDefaults (schema : Schema) (name : String) :
    schema.withoutDefaults.declares name = schema.declares name := by
  rw [declares, declares, Dict.contains_eq, Dict.contains_eq, withoutDefaults, Dict.get?_map,
    Option.isSome_map]

end AttributeSchema
