import V2Ray.App.Router.CIDRList

/-!
# Building a rule's condition

`RoutingRule.BuildCondition` turns the decoded fields of a routing rule into an AND-chain of
matchers. Each field group adds at most one matcher, in a fixed order; the constructors that
parse their input (domains, GeoIP lists, the attribute script) can fail, and the first failure
aborts the build. A rule that adds no matcher is rejected.

The matcher constructors live in `condition.go`, which is not part of the modelled source: they
are the fields of `Matchers`, arbitrary functions, and every result below holds for all of them.

* `RoutingRule.conditionBlocks_eq`: the source's blocks are the documented per-group steps
  `RoutingRule.addGroup`.
* `RoutingRule.buildCondition_eq`: the build is a fold of the matchers the set groups request
  (`RoutingRule.requestedMatchers`), followed by the emptiness check.
* `RoutingRule.buildCondition_eq_ok_inv`: conversely, a chain the build returns is the
  requested matchers, each a success, and it is not empty.
-/

namespace V2Ray.Router

/-! ## The rule description -/

/-- Modelled from the spec: the kinds of a domain pattern. -/
inductive DomainKind where
  | substring | regex | suffix | full
  deriving DecidableEq, Repr

/-- Modelled from the spec: a domain pattern of a rule, tagged with its kind. -/
structure Domain where
  kind : DomainKind
  value : String
  deriving DecidableEq, Repr

/-- Modelled from the spec: the message `net.PortRange`, an inclusive range of ports. -/
structure PortRange where
  fromPort : UInt32
  toPort : UInt32
  deriving DecidableEq, Repr

/-- Modelled from the spec: the message `net.PortList`, a union of port ranges. -/
structure PortList where
  range : List PortRange
  deriving DecidableEq, Repr

/-- Modelled from the spec: the transport kinds of `net.Network`. -/
inductive Network where
  | unknown | rawTCP | tcp | udp
  deriving DecidableEq, Repr

/-- Modelled from the spec: the message `net.NetworkList`. -/
structure NetworkList where
  network : List Network
  deriving DecidableEq, Repr

/-- Modelled from the spec: a named IP-range list, the message `GeoIP`. -/
structure GeoIP where
  countryCode : String := ""
  cidr : List CIDR := []
  deriving DecidableEq, Repr

/-- Modelled from the spec: the fields of the message `RoutingRule` that `BuildCondition`
reads. Custom GeoIP lists are referred to by name. Message fields are `none` when unset. -/
structure RoutingRule where
  domain : List Domain := []
  userEmail : List String := []
  inboundTag : List String := []
  portRange : Option PortRange := none
  portList : Option PortList := none
  networks : List Network := []
  networkList : Option NetworkList := none
  geoip : List GeoIP := []
  cidr : List CIDR := []
  sourceGeoip : List GeoIP := []
  sourceCidr : List CIDR := []
  customGeoip : List String := []
  protocol : List String := []
  attributes : String := ""
  application : List String := []
  deriving DecidableEq, Repr

/-! ## Matchers and the AND-chain -/

/-- Modelled from the spec: the matcher constructors of `condition.go`. Those that parse their
input return an error on bad input; the others always succeed. -/
structure Matchers (Condition : Type) where
  newDomainMatcher : List Domain → Except Error Condition
  newUserMatcher : List String → Condition
  newInboundTagMatcher : List String → Condition
  newPortMatcher : PortList → Condition
  newNetworkMatcher : List Network → Condition
  newMultiGeoIPMatcher : List GeoIP → Bool → Except Error Condition
  newCustomGeoIPMatcher : List String → Bool → Condition
  newProtocolMatcher : List String → Condition
  newAttributeMatcher : String → Except Error Condition
  newApplicationMatcher : List String → Condition

/-- Modelled from the spec: the composite condition `ConditionChan`, an ordered AND-chain. -/
abbrev ConditionChan (Condition : Type) := List Condition

/-- Modelled from the spec: `NewConditionChan()`, the empty chain. -/
def newConditionChan {Condition : Type} : ConditionChan Condition := []

/-- Modelled from the spec: `Add` appends a matcher at the end of the chain. -/
def ConditionChan.add {Condition : Type} (conds : ConditionChan Condition) (cond : Condition) :
    ConditionChan Condition :=
  conds ++ [cond]

/-- Modelled from the spec: `Len`, the number of matchers in the chain. -/
def ConditionChan.len {Condition : Type} (conds : ConditionChan Condition) : Nat := conds.length

/-! ## `BuildCondition` -/

section Build

variable {Condition : Type} (m : Matchers Condition)

/-- The guarded blocks of `BuildCondition`, in source order. Each adds at most one matcher to
the chain, or returns the error that ends the build. -/
def RoutingRule.conditionBlocks (rr : RoutingRule) :
    List (ConditionChan Condition → Except Error (ConditionChan Condition)) :=
  [fun conds => if rr.domain.length > 0 then
      match m.newDomainMatcher rr.domain with
      | .error err => .error ((newError "failed to build domain condition").base err)
      | .ok matcher => .ok (conds.add matcher)
    else .ok conds,
   fun conds => .ok <| if rr.userEmail.length > 0 then
      conds.add (m.newUserMatcher rr.userEmail) else conds,
   fun conds => .ok <| if rr.inboundTag.length > 0 then
      conds.add (m.newInboundTagMatcher rr.inboundTag) else conds,
   fun conds => .ok <| match rr.portList, rr.portRange with
      | some portList, _ => conds.add (m.newPortMatcher portList)
      | none, some portRange => conds.add (m.newPortMatcher { range := [portRange] })
      | none, none => conds,
   fun conds => .ok <| if rr.networks.length > 0 then
      conds.add (m.newNetworkMatcher rr.networks)
    else match rr.networkList with
      | some networkList => conds.add (m.newNetworkMatcher networkList.network)
      | none => conds,
   fun conds => if rr.geoip.length > 0 then do
      let cond ← m.newMultiGeoIPMatcher rr.geoip false
      pure (conds.add cond)
    else if rr.cidr.length > 0 then do
      let cond ← m.newMultiGeoIPMatcher [{ cidr := rr.cidr }] false
      pure (conds.add cond)
    else .ok conds,
   fun conds => if rr.sourceGeoip.length > 0 then do
      let cond ← m.newMultiGeoIPMatcher rr.sourceGeoip true
      pure (conds.add cond)
    else if rr.sourceCidr.length > 0 then do
      let cond ← m.newMultiGeoIPMatcher [{ cidr := rr.sourceCidr }] true
      pure (conds.add cond)
    else .ok conds,
   fun conds => .ok <| if rr.customGeoip.length > 0 then
      conds.add (m.newCustomGeoIPMatcher rr.customGeoip false) else conds,
   fun conds => .ok <| if rr.protocol.length > 0 then
      conds.add (m.newProtocolMatcher rr.protocol) else conds,
   fun conds => if rr.attributes.length > 0 then do
      let cond ← m.newAttributeMatcher rr.attributes
      pure (conds.add cond)
    else .ok conds,
   fun conds => .ok <| if rr.application.length > 0 then
      conds.add (m.newApplicationMatcher rr.application) else conds]

/-- The warning a rule without effective fields is rejected with. -/
def noEffectiveFields : Error := (newError "this rule has no effective fields").atWarning

/-- The method `BuildCondition` of `RoutingRule`: run the blocks in order, stopping at the
first error, then reject an empty chain. -/
def RoutingRule.buildCondition (rr : RoutingRule) : Except Error (ConditionChan Condition) := do
  let conds ← (rr.conditionBlocks m).foldlM (fun conds block => block conds) newConditionChan
  if conds.len = 0 then throw noEffectiveFields else pure conds

end Build

/-- Matchers that name the group that built them. -/
def namingMatchers : Matchers String where
  newDomainMatcher _ := .ok "domain"
  newUserMatcher _ := "user"
  newInboundTagMatcher _ := "inboundTag"
  newPortMatcher _ := "port"
  newNetworkMatcher _ := "network"
  newMultiGeoIPMatcher _ _ := .ok "geoip"
  newCustomGeoIPMatcher _ _ := "customGeoip"
  newProtocolMatcher _ := "protocol"
  newAttributeMatcher _ := .ok "attributes"
  newApplicationMatcher _ := "application"

/-! ## The documented construction -/

/-- The field groups of a routing rule, in the documented precedence order. -/
inductive FieldGroup where
  | domain | user | inboundTag | port | network | geoip | sourceGeoip | customGeoip
  | protocol | attributes | application
  deriving DecidableEq, Repr

/-- Every field group, in order. -/
def FieldGroup.all : List FieldGroup :=
  [.domain, .user, .inboundTag, .port, .network, .geoip, .sourceGeoip, .customGeoip,
    .protocol, .attributes, .application]

/-- A field of group `g` is set: a list or a string when non-empty, a message when present. -/
def RoutingRule.hasGroup (rr : RoutingRule) : FieldGroup → Bool
  | .domain => !rr.domain.isEmpty
  | .user => !rr.userEmail.isEmpty
  | .inboundTag => !rr.inboundTag.isEmpty
  | .port => rr.portList.isSome || rr.portRange.isSome
  | .network => !rr.networks.isEmpty || rr.networkList.isSome
  | .geoip => !rr.geoip.isEmpty || !rr.cidr.isEmpty
  | .sourceGeoip => !rr.sourceGeoip.isEmpty || !rr.sourceCidr.isEmpty
  | .customGeoip => !rr.customGeoip.isEmpty
  | .protocol => !rr.protocol.isEmpty
  | .attributes => rr.attributes != ""
  | .application => !rr.application.isEmpty

/-- The rule sets a field of some group. -/
def RoutingRule.hasSetField (rr : RoutingRule) : Bool := FieldGroup.all.any rr.hasGroup

section Spec

variable {Condition : Type} (m : Matchers Condition)

/-- The constructor call of a set group: the explicit port list over the single range, the
network list over the single set, the named GeoIP lists over the raw CIDR entries (which form
one unnamed list), `false` for destination and `true` for source addresses. A domain error
is wrapped. -/
def RoutingRule.groupMatcher (rr : RoutingRule) : FieldGroup → Except Error Condition
  | .domain => (m.newDomainMatcher rr.domain).mapError
      (newError "failed to build domain condition").base
  | .user => .ok (m.newUserMatcher rr.userEmail)
  | .inboundTag => .ok (m.newInboundTagMatcher rr.inboundTag)
  | .port => .ok (m.newPortMatcher (rr.portList.getD { range := rr.portRange.toList }))
  | .network => .ok (m.newNetworkMatcher (if rr.networks.isEmpty then
      (rr.networkList.map NetworkList.network).getD [] else rr.networks))
  | .geoip => m.newMultiGeoIPMatcher
      (if rr.geoip.isEmpty then [{ cidr := rr.cidr }] else rr.geoip) false
  | .sourceGeoip => m.newMultiGeoIPMatcher
      (if rr.sourceGeoip.isEmpty then [{ cidr := rr.sourceCidr }] else rr.sourceGeoip) true
  | .customGeoip => .ok (m.newCustomGeoIPMatcher rr.customGeoip false)
  | .protocol => .ok (m.newProtocolMatcher rr.protocol)
  | .attributes => m.newAttributeMatcher rr.attributes
  | .application => .ok (m.newApplicationMatcher rr.application)

/-- One documented step: a set group adds the matcher its constructor returns, or ends the
build with the constructor's error; an unset group adds nothing. -/
def RoutingRule.addGroup (rr : RoutingRule) (conds : ConditionChan Condition)
    (g : FieldGroup) : Except Error (ConditionChan Condition) :=
  if rr.hasGroup g then (rr.groupMatcher m g).map conds.add else .ok conds

/-- The constructor results the rule requests: one per set group, in order. -/
def RoutingRule.requestedMatchers (rr : RoutingRule) : List (Except Error Condition) :=
  (FieldGroup.all.filter rr.hasGroup).map (rr.groupMatcher m)

/-- Appending a constructor's result to the chain, or returning its error. -/
def ConditionChan.addResult (conds : ConditionChan Condition) (r : Except Error Condition) :
    Except Error (ConditionChan Condition) :=
  r.map conds.add

end Spec

/-! ## The source's blocks are the documented steps -/

section Blocks

variable {Condition : Type} (m : Matchers Condition) (rr : RoutingRule)

theorem string_length_pos {s : String} : 0 < s.length ↔ s ≠ "" := by
  cases s
  simp [String.length, List.length_pos, String.ext_iff]

theorem RoutingRule.conditionBlocks_eq :
    rr.conditionBlocks m = FieldGroup.all.map fun g conds => rr.addGroup m conds g := by
  simp only [RoutingRule.conditionBlocks, FieldGroup.all, List.map_cons, List.map_nil,
    List.cons.injEq, and_true]
  refine ⟨?_, ?_, ?_, ?_, ?_, ?_, ?_, ?_, ?_, ?_, ?_⟩ <;> funext conds <;>
    simp only [RoutingRule.addGroup, RoutingRule.hasGroup, RoutingRule.groupMatcher,
      bind_pure_comp, gt_iff_lt, List.length_pos, string_length_pos] <;>
    (repeat' split) <;> simp_all [Functor.map, Except.map, Except.mapError]

end Blocks

/-! ## The fold of the requested matchers -/

section Fold

variable {Condition : Type} (m : Matchers Condition) (rr : RoutingRule)

theorem RoutingRule.foldlM_addGroup : ∀ (gs : List FieldGroup) (acc : ConditionChan Condition),
    gs.foldlM (rr.addGroup m) acc =
      ((gs.filter rr.hasGroup).map (rr.groupMatcher m)).foldlM ConditionChan.addResult acc
  | [], _ => rfl
  | g :: gs, acc => by
    by_cases hg : rr.hasGroup g
    · simp only [List.foldlM_cons, List.filter_cons_of_pos hg, List.map_cons,
        RoutingRule.addGroup, hg, if_true, ConditionChan.addResult]
      cases rr.groupMatcher m g
      · rfl
      · exact RoutingRule.foldlM_addGroup gs _
    · simp only [List.foldlM_cons, List.filter_cons_of_neg hg, RoutingRule.addGroup, hg]
      exact RoutingRule.foldlM_addGroup gs acc

/-- Successful constructors append their matchers in order. -/
theorem ConditionChan.foldlM_addResult_ok : ∀ (conds acc : ConditionChan Condition),
    (conds.map .ok).foldlM ConditionChan.addResult acc = (.ok (acc ++ conds) : Except Error _)
  | [], acc => by simp [pure, Except.pure]
  | c :: conds, acc => by
    simp only [List.map_cons, List.foldlM_cons, ConditionChan.addResult, Except.map,
      except_ok_bind]
    rw [ConditionChan.foldlM_addResult_ok conds, ConditionChan.add, List.append_assoc,
      List.singleton_append]

/-- The first failing constructor's error ends the fold. -/
theorem ConditionChan.foldlM_addResult_error (err : Error)
    (rest : List (Except Error Condition)) : ∀ (done acc : ConditionChan Condition),
    (done.map Except.ok ++ Except.error err :: rest).foldlM ConditionChan.addResult acc = .error err
  | [], _ => rfl
  | c :: done, acc => by
    simp only [List.map_cons, List.cons_append, List.foldlM_cons, ConditionChan.addResult,
      Except.map]
    exact ConditionChan.foldlM_addResult_error err rest done _

/-- A fold of constructor results that returns went through successes only, and appended
them in order. -/
theorem ConditionChan.foldlM_addResult_eq_ok :
    ∀ (rs : List (Except Error Condition)) (acc conds : ConditionChan Condition),
      rs.foldlM ConditionChan.addResult acc = .ok conds →
        ∃ cs, rs = cs.map Except.ok ∧ conds = acc ++ cs
  | [], acc, conds, h => ⟨[], rfl, by cases h; simp⟩
  | .error _ :: _, _, _, h => by cases h
  | .ok c :: rs, acc, conds, h => by
    obtain ⟨cs, rfl, rfl⟩ := ConditionChan.foldlM_addResult_eq_ok rs (acc.add c) conds h
    exact ⟨c :: cs, rfl, by simp [ConditionChan.add]⟩

/-- The build is the fold of the requested matchers, then the emptiness check. -/
theorem RoutingRule.buildCondition_eq : rr.buildCondition m =
    ((rr.requestedMatchers m).foldlM ConditionChan.addResult newConditionChan >>= fun conds =>
      if conds.len = 0 then throw noEffectiveFields else pure conds) := by
  rw [RoutingRule.buildCondition, RoutingRule.conditionBlocks_eq, List.foldlM_map,
    RoutingRule.foldlM_addGroup, RoutingRule.requestedMatchers]

theorem RoutingRule.requestedMatchers_eq_nil_iff :
    rr.requestedMatchers m = [] ↔ rr.hasSetField = false := by
  simp [RoutingRule.requestedMatchers, RoutingRule.hasSetField, List.filter_eq_nil_iff]

end Fold

/-! ## What `BuildCondition` returns -/

section Result

variable {Condition : Type} (m : Matchers Condition)

/-- The build returns the first error among the requested matchers; when there is none, it
returns the requested matchers in order, or the warning when no group is set. -/
theorem RoutingRule.buildCondition_spec (rr : RoutingRule) :
    (∀ (done : List Condition) (err : Error) (rest : List (Except Error Condition)),
      rr.requestedMatchers m = done.map Except.ok ++ Except.error err :: rest →
        rr.buildCondition m = .error err) ∧
    (∀ conds : List Condition, rr.requestedMatchers m = conds.map Except.ok →
      rr.buildCondition m =
        if conds.isEmpty then Except.error noEffectiveFields else Except.ok conds) := by
  refine ⟨fun done err rest h => ?_, fun conds h => ?_⟩
  · rw [RoutingRule.buildCondition_eq, h, ConditionChan.foldlM_addResult_error]
    rfl
  · rw [RoutingRule.buildCondition_eq, h, ConditionChan.foldlM_addResult_ok]
    cases conds <;> rfl

/-- A rule with no field set is rejected with the warning. -/
theorem RoutingRule.buildCondition_of_not_hasSetField {rr : RoutingRule}
    (h : rr.hasSetField = false) : rr.buildCondition m = .error noEffectiveFields := by
  rw [RoutingRule.buildCondition_eq, (RoutingRule.requestedMatchers_eq_nil_iff m rr).2 h]
  rfl

/-- A rule builds only when it sets a field, counting a present but empty port list or
network list; a rule that sets none is rejected with the warning; and a rule whose only field
is an empty port list or an empty network list builds one matcher over no ports or no
networks. -/
theorem RoutingRule.buildCondition_ok_hasSetField (rr : RoutingRule) :
    (∀ conds, rr.buildCondition m = .ok conds → rr.hasSetField = true) ∧
    (rr.hasSetField = false → rr.buildCondition m = .error noEffectiveFields) ∧
    ({ portList := some ⟨[]⟩ } : RoutingRule).buildCondition m =
      .ok [m.newPortMatcher ⟨[]⟩] ∧
    ({ networkList := some ⟨[]⟩ } : RoutingRule).buildCondition m =
      .ok [m.newNetworkMatcher []] := by
  refine ⟨fun conds hok => ?_, RoutingRule.buildCondition_of_not_hasSetField m, rfl, rfl⟩
  cases h : rr.hasSetField
  · rw [RoutingRule.buildCondition_of_not_hasSetField m h] at hok
    cases hok
  · rfl

/-- A build that returns a chain went through the requested matchers only, each a success,
and the chain is not empty. -/
theorem RoutingRule.buildCondition_eq_ok_inv {rr : RoutingRule}
    {conds : ConditionChan Condition} (h : rr.buildCondition m = .ok conds) :
    rr.requestedMatchers m = conds.map Except.ok ∧ conds ≠ [] := by
  rw [RoutingRule.buildCondition_eq] at h
  obtain ⟨chain, hfold, h⟩ := except_bind_eq_ok.1 h
  obtain ⟨cs, hcs, rfl⟩ := ConditionChan.foldlM_addResult_eq_ok _ _ _ hfold
  split at h
  · cases h
  · next hne =>
    cases h
    exact ⟨hcs, fun h0 => hne (by rw [h0]; rfl)⟩

end Result

theorem RoutingRule.buildCondition_spec_userAttributes :
    let rr : RoutingRule := { userEmail := ["alice"], attributes := "bad", application := ["app"] }
    let failing : Matchers String :=
      { namingMatchers with newAttributeMatcher := fun _ => .error (newError "bad attribute") }
    (rr.requestedMatchers failing =
        ["user"].map Except.ok ++ Except.error (newError "bad attribute") :: [.ok "application"] ∧
      rr.buildCondition failing = .error (newError "bad attribute")) ∧
    (rr.requestedMatchers namingMatchers =
        ["user", "attributes", "application"].map Except.ok ∧
      rr.buildCondition namingMatchers = .ok ["user", "attributes", "application"]) := by
  intro rr failing
  exact ⟨⟨rfl, (RoutingRule.buildCondition_spec failing rr).1 ["user"] _ [.ok "application"] rfl⟩,
    ⟨rfl, (RoutingRule.buildCondition_spec namingMatchers rr).2
      ["user", "attributes", "application"] rfl⟩⟩

theorem RoutingRule.buildCondition_ok_hasSetField_user :
    let rr : RoutingRule := { userEmail := ["alice"] }
    (rr.buildCondition namingMatchers = .ok ["user"] ∧ rr.hasSetField = true) ∧
    (({} : RoutingRule).hasSetField = false ∧
      ({} : RoutingRule).buildCondition namingMatchers = .error noEffectiveFields) := by
  intro rr
  exact ⟨⟨rfl, (RoutingRule.buildCondition_ok_hasSetField namingMatchers rr).1 ["user"] rfl⟩,
    ⟨rfl, (RoutingRule.buildCondition_ok_hasSetField namingMatchers {}).2.1 rfl⟩⟩

/-- The reading of a populated rule in which a port list or a network list counts only when
it holds a range or a network. -/
def RoutingRule.hasPopulatedField (rr : RoutingRule) : Bool :=
  !rr.domain.isEmpty || !rr.userEmail.isEmpty || !rr.inboundTag.isEmpty ||
    rr.portRange.isSome || rr.portList.any (fun portList => !portList.range.isEmpty) ||
    !rr.networks.isEmpty || rr.networkList.any (fun networkList => !networkList.network.isEmpty) ||
    !rr.geoip.isEmpty || !rr.cidr.isEmpty || !rr.sourceGeoip.isEmpty ||
    !rr.sourceCidr.isEmpty || !rr.customGeoip.isEmpty || !rr.protocol.isEmpty ||
    rr.attributes != "" || !rr.application.isEmpty

/-- A rule whose only field is an empty port list builds a port matcher over no ports. -/
theorem buildCondition_accepts_empty_portList :
    ({ portList := some { range := [] } } : RoutingRule).buildCondition namingMatchers =
        .ok ["port"] ∧
      ({ portList := some { range := [] } } : RoutingRule).hasPopulatedField = false :=
  ⟨rfl, rfl⟩

end V2Ray.Router
