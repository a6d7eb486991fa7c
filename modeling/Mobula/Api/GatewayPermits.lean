import Mobula.Api.JobHistory

/-!
# Permits of the gateway

The gateway takes a permit for every exchange with a cluster and refuses the exchange when there
is none. A websocket bridge keeps its permit until it closes. Other permits are given back with
the response, whose body is still coming from the cluster while it is relayed.
-/

namespace Mobula

open List

/-- A proxied request and how it is answered. -/
structure Exchange extends HttpRequest where
  /-- The body, the cluster's token and its address can be used. -/
  prepared : Bool
  /-- The status of the cluster's answer; none if nothing comes or the client leaves before. -/
  status : Option ℕ

inductive ExchangePhase where
  | arriving
  | admitted
  | connected
  | relaying
  | ended
  deriving DecidableEq

namespace ExchangePhase

def holdsPermit (phase : ExchangePhase) : Bool :=
  phase = .admitted || phase = .connected

def isOpen (phase : ExchangePhase) : Bool :=
  phase = .connected || phase = .relaying

end ExchangePhase

namespace Exchange

/-- A response is returned when its body has been read, or with the body still to come. -/
def proxyReturns (exchange : Exchange) : ExchangePhase :=
  match exchange.status with
  | none => .ended
  | some status =>
    if isRayJobSubmit exchange.method exchange.path && isSuccess status then .ended else .relaying

/-- The connection and the permit belong to the bridge. -/
def bridgeReturns : ExchangePhase := .ended

/-- The next phase of an exchange in `host_gateway`, and the permits that are left. -/
def advance (layer : AuthLayer) (exchange : Exchange) (permits : ℕ) :
    ExchangePhase → ExchangePhase × ℕ
  | .arriving =>
    if (layer.clusterOf exchange.toHttpRequest).isNone || permits = 0 then (.ended, permits)
    else (.admitted, permits - 1)
  | .admitted => if exchange.prepared then (.connected, permits) else (.ended, permits + 1)
  | .connected =>
    (if AuthLayer.isWebsocketUpgrade exchange.toHttpRequest then bridgeReturns
      else exchange.proxyReturns, permits + 1)
  | .relaying | .ended => (.ended, permits)

/-- The response of a cluster is returned before its body has been read. -/
def Streams (layer : AuthLayer) (exchange : Exchange) : Prop :=
  (layer.clusterOf exchange.toHttpRequest).isSome ∧ exchange.prepared = true ∧
    AuthLayer.isWebsocketUpgrade exchange.toHttpRequest = false ∧
    exchange.proxyReturns = .relaying

end Exchange

structure GatewayState where
  permits : ℕ
  exchanges : List (Exchange × ExchangePhase)

def GatewayState.openExchanges (state : GatewayState) : ℕ :=
  state.exchanges.countP (·.2.isOpen)

/-- Requests that are served arrive, and any exchange goes on, in any order. -/
inductive GatewayRun (layer : AuthLayer) (served : Exchange → Prop) (maxInflight : ℕ) :
    GatewayState → Prop
  | start : GatewayRun layer served maxInflight ⟨maxInflight, []⟩
  | arrive {permits exchanges} (exchange : Exchange) (allowed : served exchange)
      (run : GatewayRun layer served maxInflight ⟨permits, exchanges⟩) :
      GatewayRun layer served maxInflight ⟨permits, (exchange, .arriving) :: exchanges⟩
  | advance {permits front exchange phase back}
      (run : GatewayRun layer served maxInflight ⟨permits, front ++ (exchange, phase) :: back⟩) :
      GatewayRun layer served maxInflight ⟨(exchange.advance layer permits phase).2,
        front ++ (exchange, (exchange.advance layer permits phase).1) :: back⟩

variable {layer : AuthLayer} {served : Exchange → Prop} {maxInflight permits : ℕ}
  {exchange : Exchange} {phase : ExchangePhase} {state : GatewayState}

theorem returns_or :
    (if AuthLayer.isWebsocketUpgrade exchange.toHttpRequest then Exchange.bridgeReturns
      else exchange.proxyReturns) = .ended ∨
    AuthLayer.isWebsocketUpgrade exchange.toHttpRequest = false ∧
      exchange.proxyReturns = .relaying := by
  unfold Exchange.proxyReturns Exchange.bridgeReturns
  grind

/-- A step moves a permit between the gateway and the exchange, or none. -/
theorem advance_permits : (exchange.advance layer permits phase).2 +
        [(exchange.advance layer permits phase).1].countP (·.holdsPermit) =
      permits + [phase].countP (·.holdsPermit) := by
  cases phase with
  | arriving =>
    by_cases refused : (layer.clusterOf exchange.toHttpRequest).isNone || permits = 0
    · simp [Exchange.advance, refused, ExchangePhase.holdsPermit]
    · simp [Exchange.advance, refused, ExchangePhase.holdsPermit]
      simp at refused
      omega
  | admitted =>
    by_cases prepared : exchange.prepared = true
    · simp [Exchange.advance, prepared, ExchangePhase.holdsPermit]
    · simp [Exchange.advance, prepared, ExchangePhase.holdsPermit]
  | connected =>
    rcases @returns_or exchange with ended | ⟨http, streamed⟩
    · simp [Exchange.advance, ended, ExchangePhase.holdsPermit]
    · simp [Exchange.advance, http, streamed, ExchangePhase.holdsPermit]
  | relaying => rfl
  | ended => rfl

theorem GatewayRun.accounted (run : GatewayRun layer served maxInflight state) :
    state.permits + state.exchanges.countP (·.2.holdsPermit) = maxInflight := by
  induction run with
  | start => rfl
  | arrive exchange _ _ ih => simpa [ExchangePhase.holdsPermit] using ih
  | @advance permits front exchange phase back _ ih =>
    have moved := @advance_permits layer permits exchange phase
    simp only [countP_append, countP_cons, countP_nil] at ih moved ⊢
    omega

/-- What is known of an exchange in a phase, if no answer is streamed. -/
def Kept (layer : AuthLayer) (served : Exchange → Prop) (maxInflight : ℕ) (exchange : Exchange) :
    ExchangePhase → Prop
  | .arriving => served exchange
  | .admitted => served exchange ∧ maxInflight ≠ 0 ∧ (layer.clusterOf exchange.toHttpRequest).isSome
  | .connected => served exchange ∧ maxInflight ≠ 0 ∧
      (layer.clusterOf exchange.toHttpRequest).isSome ∧ exchange.prepared = true
  | .relaying => False
  | .ended => True

section Buffered

variable (condition : maxInflight = 0 ∨ ∀ exchange, served exchange → ¬ exchange.Streams layer)

include condition

theorem Kept.advance (kept : Kept layer served maxInflight exchange phase)
    (few : permits ≤ maxInflight) :
    Kept layer served maxInflight exchange (exchange.advance layer permits phase).1 := by
  cases phase with
  | arriving =>
    simp only [Exchange.advance]
    split
    case isTrue => trivial
    case isFalse admitted =>
      simp only [Bool.or_eq_true, Option.isNone_iff_eq_none, decide_eq_true_eq, not_or] at admitted
      exact ⟨kept, by omega, Option.isSome_iff_ne_none.mpr admitted.1⟩
  | admitted =>
    simp only [Exchange.advance]
    split
    case isTrue prepared => exact ⟨kept.1, kept.2.1, kept.2.2, prepared⟩
    case isFalse => trivial
  | connected =>
    rcases kept with ⟨allowed, free, known, prepared⟩
    rcases @returns_or exchange with ended | ⟨http, streamed⟩
    · simp only [Exchange.advance, ended]
      trivial
    · exact absurd ⟨known, prepared, http, streamed⟩ (condition.resolve_left free exchange allowed)
  | relaying => cases kept
  | ended => trivial

theorem GatewayRun.kept (run : GatewayRun layer served maxInflight state) :
    ∀ entry ∈ state.exchanges, Kept layer served maxInflight entry.1 entry.2 := by
  induction run with
  | start => simp
  | arrive exchange allowed _ ih => exact forall_mem_cons.mpr ⟨allowed, ih⟩
  | advance run ih =>
    have := run.accounted
    rw [forall_mem_append, forall_mem_cons] at ih ⊢
    exact ⟨ih.1, ih.2.1.advance condition (by simp only at this; omega), ih.2.2⟩

theorem GatewayRun.bounded (run : GatewayRun layer served maxInflight state) :
    state.openExchanges ≤ maxInflight := by
  have fewer : state.openExchanges ≤ state.exchanges.countP (·.2.holdsPermit) := by
    apply countP_mono_left
    rintro ⟨exchange, phase⟩ entryMem isOpen
    have kept := run.kept condition _ entryMem
    cases phase with
    | connected => rfl
    | relaying => cases kept
    | _ => cases isOpen
  have := run.accounted
  omega

end Buffered

/-- One streamed answer after the other, none of them fully relayed. -/
theorem exists_streaming (allowed : served exchange) (streams : exchange.Streams layer)
    (free : maxInflight ≠ 0) (count : ℕ) : GatewayRun layer served maxInflight
      ⟨maxInflight, replicate count (exchange, .relaying)⟩ := by
  induction count with
  | zero => exact .start
  | succ count ih =>
    rcases streams with ⟨known, prepared, http, streamed⟩
    have refused : ¬ ((layer.clusterOf exchange.toHttpRequest).isNone || maxInflight = 0) := by
      simpa [free] using Option.isSome_iff_ne_none.mp known
    have permits : maxInflight - 1 + 1 = maxInflight := by omega
    have admitted := @GatewayRun.advance _ _ _ _ [] _ _ _ (.arrive exchange allowed ih)
    have connected := @GatewayRun.advance _ _ _ _ [] _ _ _ admitted
    have relayed := @GatewayRun.advance _ _ _ _ [] _ _ _ connected
    simpa [Exchange.advance, refused, prepared, http, streamed, permits, replicate_succ]
      using relayed

/--
In every run, the exchanges with an open connection stay within `max_inflight`, exactly
if no answer of a cluster is streamed.
-/
theorem open_exchanges_bounded_iff (layer : AuthLayer) (served : Exchange → Prop)
    (maxInflight : ℕ) :
    (∀ state, GatewayRun layer served maxInflight state → state.openExchanges ≤ maxInflight) ↔
      maxInflight = 0 ∨ ∀ exchange, served exchange → ¬ exchange.Streams layer := by
  constructor
  · intro bounded
    by_contra! some
    rcases some with ⟨free, exchange, allowed, streams⟩
    have beyond := bounded _ (exists_streaming allowed streams free (maxInflight + 1))
    simp [GatewayState.openExchanges, countP_replicate, ExchangePhase.isOpen] at beyond
  · exact fun condition state run => run.bounded condition

/-- A websocket for the host of a registered cluster. -/
def demoTail : Exchange where
  toHttpRequest := { demoRead with upgrade := some ("websocket".toList.map fun c => c.toUInt8) }
  prepared := true
  status := some 101

theorem open_exchanges_bounded_of_tails :
    ∀ state, GatewayRun demoLayer (· = demoTail) 1 state → state.openExchanges ≤ 1 := by
  refine (open_exchanges_bounded_iff demoLayer (· = demoTail) 1).mpr (.inr ?_)
  rintro exchange rfl ⟨_, _, http, _⟩
  revert http
  decide

/-- With one permit, a second answer is fetched while the first one is being relayed. -/
theorem two_answers_with_one_permit :
    ∃ state, GatewayRun demoLayer (fun _ => True) 1 state ∧ state.openExchanges = 2 := by
  have streams : Exchange.Streams demoLayer ⟨demoRead, true, some 200⟩ :=
    ⟨by decide, rfl, rfl, rfl⟩
  exact ⟨_, exists_streaming trivial streams Nat.one_ne_zero 2, rfl⟩

end Mobula
