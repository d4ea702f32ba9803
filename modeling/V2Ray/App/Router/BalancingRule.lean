import V2Ray.App.Router.RoutingRule

/-!
# Balancers and rules

`BalancingRule.Build` picks the balancer's strategy from the rule's strategy number: random
selection, or a latency-probing strategy built from the tuning parameters. A `Rule` routes to
its fixed tag or asks its balancer.

* `BalancingRule.build_eq`: `Build` never returns an error; it keeps the selectors and holds
  the strategy its two `if`s select. A number that names no strategy is admitted and gives a
  balancer with no strategy (`BalancingRule.build_unknown_strategy`).
-/

namespace V2Ray.Router

/-- Modelled from the spec: the enum `BalancingRule.BalancingStrategy`, an `int32`; proto3
decoding keeps numbers that name no strategy. -/
structure BalancingStrategyKind where
  value : BitVec 32
  deriving DecidableEq, Repr

/-- Modelled from the spec: `BalancingRule_Random`, the first strategy of the enum. -/
def BalancingStrategyKind.random : BalancingStrategyKind := ⟨0⟩

/-- Modelled from the spec: `BalancingRule_Latency`, the second strategy of the enum. -/
def BalancingStrategyKind.latency : BalancingStrategyKind := ⟨1⟩

theorem BalancingStrategyKind.latency_ne_random :
    BalancingStrategyKind.latency ≠ BalancingStrategyKind.random := by
  decide

/-- Modelled from the spec: the fields of the message `BalancingRule` that `Build` reads, the
candidate selectors, the strategy and its tuning parameters (sample count, interval, delay
and timeout in seconds, tolerance in milliseconds, probe target and content). -/
structure BalancingRule where
  outboundSelector : List String := []
  balancingStrategy : BalancingStrategyKind := .random
  totalMeasures : Int := 0
  interval : Int := 0
  delay : Int := 0
  timeout : Int := 0
  tolerance : Int := 0
  probeTarget : String := ""
  probeContent : String := ""
  deriving DecidableEq, Repr

/-- Go's `int64` arithmetic wraps into the signed 64-bit range, modulo `2 ^ 64`. -/
def wrapInt64 (x : Int) : Int := Int.bmod x 18446744073709551616

/-- The conversion `time.Duration(x) * unit`, in nanoseconds. -/
def durationOf (x unit : Int) : Int := wrapInt64 (wrapInt64 x * unit)

/-- The strategies a balancer can hold, the implementations of `BalancingStrategy`. -/
inductive BalancingStrategy (LatencyStrategy : Type) where
  | random
  | latency (ls : LatencyStrategy)
  deriving DecidableEq, Repr

/-- The struct `Balancer`. A nil strategy is `none`. -/
structure Balancer (LatencyStrategy Ohm : Type) where
  selectors : List String
  strategy : Option (BalancingStrategy LatencyStrategy)
  ohm : Ohm

/-- The constructor `NewLatencyStrategy`, which is not in the source: from the outbound
manager, the selectors, the sample count, the interval, delay, timeout and tolerance in
nanoseconds and the probe target and content, a strategy or nil. -/
abbrev NewLatencyStrategy (LatencyStrategy Ohm : Type) :=
  Ohm → List String → Int → Int → Int → Int → Int → String → String → Option LatencyStrategy

section Build

variable {LatencyStrategy Ohm : Type} (newLatencyStrategy : NewLatencyStrategy LatencyStrategy Ohm)

/-- The method `Build` of `BalancingRule`. -/
def BalancingRule.build (br : BalancingRule) (ohm : Ohm) :
    Except Error (Balancer LatencyStrategy Ohm) :=
  let strategy : Option (BalancingStrategy LatencyStrategy) := none
  let strategy := if br.balancingStrategy = .random then some .random else strategy
  let strategy := if br.balancingStrategy = .latency then
      match newLatencyStrategy ohm br.outboundSelector (wrapInt64 br.totalMeasures)
        (durationOf br.interval 1000000000) (durationOf br.delay 1000000000)
        (durationOf br.timeout 1000000000) (durationOf br.tolerance 1000000)
        br.probeTarget br.probeContent with
      | some ls => some (.latency ls)
      | none => strategy
    else strategy
  .ok { selectors := br.outboundSelector, strategy := strategy, ohm := ohm }

/-- The latency strategy `Build` asks for. -/
def BalancingRule.latencyStrategy (br : BalancingRule) (ohm : Ohm) : Option LatencyStrategy :=
  newLatencyStrategy ohm br.outboundSelector (wrapInt64 br.totalMeasures)
    (durationOf br.interval 1000000000) (durationOf br.delay 1000000000)
    (durationOf br.timeout 1000000000) (durationOf br.tolerance 1000000)
    br.probeTarget br.probeContent

/-- The strategy `Build` selects. -/
def BalancingRule.selectedStrategy (br : BalancingRule) (ohm : Ohm) :
    Option (BalancingStrategy LatencyStrategy) :=
  if br.balancingStrategy = .random then some .random
  else if br.balancingStrategy = .latency then
    (br.latencyStrategy newLatencyStrategy ohm).map .latency
  else none

/-- `Build` never fails: it keeps the selectors and the manager and holds the selected
strategy. -/
theorem BalancingRule.build_eq (br : BalancingRule) (ohm : Ohm) :
    br.build newLatencyStrategy ohm =
      .ok ⟨br.outboundSelector, br.selectedStrategy newLatencyStrategy ohm, ohm⟩ := by
  simp only [BalancingRule.build, BalancingRule.selectedStrategy, BalancingRule.latencyStrategy]
  by_cases hr : br.balancingStrategy = .random
  · simp [hr, BalancingStrategyKind.latency_ne_random.symm]
  · by_cases hl : br.balancingStrategy = .latency
    · cases newLatencyStrategy ohm br.outboundSelector (wrapInt64 br.totalMeasures)
        (durationOf br.interval 1000000000) (durationOf br.delay 1000000000)
        (durationOf br.timeout 1000000000) (durationOf br.tolerance 1000000)
        br.probeTarget br.probeContent <;>
        simp [hr, hl, BalancingStrategyKind.latency_ne_random]
    · simp [hr, hl]

end Build

/-- A strategy number that names no strategy gives a balancer with no strategy, and no
error. -/
theorem BalancingRule.build_unknown_strategy {LatencyStrategy Ohm : Type}
    (newLatencyStrategy : NewLatencyStrategy LatencyStrategy Ohm) (ohm : Ohm) :
    ({ balancingStrategy := ⟨2⟩ } : BalancingRule).build newLatencyStrategy ohm =
      .ok { selectors := [], strategy := none, ohm := ohm } := by
  rw [BalancingRule.build_eq]
  rfl

/-! ## Rules -/

/-- The struct `Rule`: a condition and its target, a fixed tag or a balancer. -/
structure Rule (Condition LatencyStrategy Ohm : Type) where
  tag : String
  balancer : Option (Balancer LatencyStrategy Ohm)
  condition : Condition

section Rule

variable {Condition Context LatencyStrategy Ohm : Type}

/-- The method `GetTag` of `Rule`. `pickOutbound` is `Balancer.PickOutbound`, which is not in
the source. -/
def Rule.getTag (pickOutbound : Balancer LatencyStrategy Ohm → Except Error String)
    (r : Rule Condition LatencyStrategy Ohm) : Except Error String :=
  match r.balancer with
  | some balancer => pickOutbound balancer
  | none => .ok r.tag

/-- The method `Apply` of `Rule`. `applyCondition` is the condition's `Apply`, which is not in
the source. -/
def Rule.apply (applyCondition : Condition → Context → Bool)
    (r : Rule Condition LatencyStrategy Ohm) (ctx : Context) : Bool :=
  applyCondition r.condition ctx

end Rule

end V2Ray.Router
