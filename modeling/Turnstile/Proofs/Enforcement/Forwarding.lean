import Turnstile.Proofs.DistantClock
import Turnstile.Proofs.Enforcement.Accounting

/-!
# Forwarding headers of an untrusted peer

A peer may name the client that it forwards for, but is only believed from within
a trusted network.  A peer outside of all of them that shows no bearer token is
counted under its own address, whatever else its requests say.

The limiter hence never learns of its forwarding headers.  A run stays the same
for the limiter when they are changed, and the peer has the one bucket of its
address to spend.  Seen from the limiter a run of the layer is a run of checks
and of what happens between requests, and every request that the peer gets
through is a grant of its key in that run.
-/

namespace Turnstile

open Http Net Text

variable {σ ω ι ε : Type}

/-- Whether a request comes from a peer and shows no bearer token. -/
def ComesBareFrom (peer : Address) (request : Request) : Prop :=
  request.peer.map Endpoint.address = some peer ∧
    ∀ value ∈ request.headers.first? "authorization",
      ¬Utf8.ofAscii "Bearer ".toList <+: value

instance decidableComesBareFrom (peer : Address) (request : Request) :
    Decidable (ComesBareFrom peer request) :=
  inferInstanceAs (Decidable (_ ∧ _))

/-- Whether two requests differ in their forwarding headers at most. -/
structure AlikeButForwarding (first second : Request) : Prop where
  method : first.method = second.method
  target : first.target = second.target
  peer : first.peer = second.peer
  values : ∀ name, name ≠ "x-forwarded-for" →
    first.headers.values name = second.headers.values name

/-- Other forwarding headers show no bearer token. -/
theorem AlikeButForwarding.comesBareFrom
    {peer : Address}
    {first second : Request}
    (alike : AlikeButForwarding first second)
    (bare : ComesBareFrom peer first) : ComesBareFrom peer second := by
  have authorization : second.headers.first? "authorization" =
      first.headers.first? "authorization" := by
    rw [Headers.first?, Headers.first?, alike.values _ (by decide)]
  rw [ComesBareFrom, ← alike.peer, authorization]
  exact bare

namespace Resolver

theorem bearerToken?_eq_none
    {headers : Headers}
    (bare : ∀ value ∈ headers.first? "authorization",
      ¬Utf8.ofAscii "Bearer ".toList <+: value) :
    bearerToken? headers = none := by
  rw [bearerToken?]
  cases presented : headers.first? "authorization" with
  | none => rfl
  | some value =>
      have other := bare value presented
      rw [← List.isPrefixOf_iff_prefix] at other
      exact if_neg other

/-- A peer outside of every trusted network is not believed, once there is one. -/
theorem believes_eq_false
    {resolver : Resolver}
    {peer : Address}
    (configured : resolver.proxies.ranges ≠ [])
    (untrusted : ∀ range ∈ resolver.proxies.ranges,
      range.contains peer = false) :
    resolver.believes (some peer) = false := by
  have outside : resolver.proxies.ranges.any
      (fun range => range.contains peer) = false := by
    simpa using untrusted
  rw [believes, TrustedProxies.trusts, outside, TrustedProxies.isEnabled]
  simpa using configured

/-- A peer that is not believed is counted under its bearer token or its own
address. -/
theorem client_of_doubted
    {resolver : Resolver}
    {peer : Address}
    (doubted : resolver.believes (some peer) = false)
    {request : Request}
    (origin : request.peer.map Endpoint.address = some peer) :
    resolver.client request =
      (bearerToken? request.headers).elim (.peer (some peer)) .bearer := by
  rw [client, peerAddress, origin]
  cases bearerToken? request.headers with
  | some token => rfl
  | none =>
      cases forwardedFor? request.headers with
      | none => rfl
      | some name => exact if_neg (Bool.eq_false_iff.1 doubted)

/-- A peer that is not believed and shows no bearer token is counted under its
address. -/
theorem resolve_of_bare
    {resolver : Resolver}
    {peer : Address}
    (doubted : resolver.believes (some peer) = false)
    {request : Request}
    (bare : ComesBareFrom peer request) :
    resolver.resolve request = "ip:" ++ String.ofList peer.print := by
  obtain ⟨origin, noBearer⟩ := bare
  rw [resolve, client_of_doubted doubted origin, bearerToken?_eq_none noBearer]
  rfl

end Resolver

/-- Two turns that are the same, or bare requests of a peer that differ in their
forwarding headers at most. -/
inductive Turn.Alike (peer : Address) : Turn ω → Turn ω → Prop where
  | same (turn : Turn ω) : Turn.Alike peer turn turn
  | forwarding
      {first second : Request}
      (bare : ComesBareFrom peer first)
      (alike : AlikeButForwarding first second) :
      Turn.Alike peer (.request first) (.request second)

/-- What happens between requests at a turn. -/
def Turn.between? : Turn ω → Option ω
  | request _ => none
  | between event => some event

namespace Limiter

theorem calls_append (limiter : Limiter) (earlier later : List Event) :
    limiter.calls (earlier ++ later) =
      limiter.calls earlier ++ (limiter.run earlier).1.calls later := by
  induction earlier generalizing limiter with
  | nil => rfl
  | cons event earlier inductionHypothesis =>
      rw [List.cons_append, calls, calls, inductionHypothesis,
        List.append_assoc]
      rfl

end Limiter

namespace Enforcement

variable (enforcement : Enforcement)

/-! ## Two runs that differ in forwarding headers -/

/-- Turns that are alike do the same to the limiter. -/
theorem impact_eq_of_alike
    {key : String}
    {peer : Address}
    (keyed : ∀ request, ComesBareFrom peer request →
      enforcement.resolver.resolve request = key)
    (limiting : Limiting σ ω)
    (limiter : σ)
    {first second : Turn ω}
    (alike : Turn.Alike peer first second) :
    enforcement.impact limiting limiter first =
      enforcement.impact limiting limiter second := by
  cases alike with
  | same => rfl
  | @forwarding first second bare alike =>
      have samePath : first.path = second.path := by
        rw [Request.path, Request.path, alike.target]
      rw [impact, impact, samePath, keyed first bare,
        keyed second (alike.comesBareFrom bare)]

theorem foldl_impact_of_alike
    {key : String}
    {peer : Address}
    (keyed : ∀ request, ComesBareFrom peer request →
      enforcement.resolver.resolve request = key)
    (limiting : Limiting σ ω)
    (limiter : σ)
    {turns otherTurns : List (Turn ω)}
    (alike : List.Forall₂ (Turn.Alike peer) turns otherTurns) :
    turns.foldl (enforcement.impact limiting) limiter =
      otherTurns.foldl (enforcement.impact limiting) limiter := by
  induction alike generalizing limiter with
  | nil => rfl
  | cons head _ inductionHypothesis =>
      rw [List.foldl_cons, List.foldl_cons, inductionHypothesis,
        enforcement.impact_eq_of_alike keyed limiting limiter head]

/-! ## What an untrusted peer gets through -/

/-- The event of the limiter that a turn amounts to, if it comes through. -/
def limiterEvent? : Turn Limiter.Event → Option Limiter.Event
  | .request request =>
      if enforcement.isExempt request.path then none
      else some (.consume (enforcement.resolver.resolve request))
  | .between event => some event

/-- The events of the limiter that a turn amounts to, none if it does not come
through. -/
def amount
    (service : Service Limiter ι ε)
    (inner : ι)
    (turn : Turn Limiter.Event) : List Limiter.Event :=
  if comesThrough service inner turn then
    (enforcement.limiterEvent? turn).toList
  else []

/-- The events of the limiter that a run amounts to. -/
def driven
    (enforcement : Enforcement)
    (service : Service Limiter ι ε)
    (state : Guarded Limiter ι) :
    List (Turn Limiter.Event) → List Limiter.Event
  | [] => []
  | turn :: turns =>
      let next := (enforcement.step Limiting.ofBuckets service state turn).1
      enforcement.amount service state.inner turn ++
        enforcement.driven service next turns

/-- Whether a visit is made by a bare request of a peer for a path that is not
exempt, in a window of time. -/
def isBareVisit
    (peer : Address)
    (opening closing : Int)
    (visit : Visit Limiter) : Bool :=
  ComesBareFrom peer visit.request ∧
    enforcement.isExempt visit.request.path = false ∧
    opening ≤ visit.limiter.clock.nowMs.toInt ∧
    visit.limiter.clock.nowMs.toInt ≤ closing

section Driven

variable (service : Service Limiter ι ε)

theorem amount_of_unready
    {inner : ι}
    {error : ε}
    (unready : service.unready? inner = some error)
    (request : Request) :
    enforcement.amount service inner (.request request) = [] := by
  simp [amount, comesThrough, unready]

theorem amount_of_exempt
    {request : Request}
    (exempt : enforcement.isExempt request.path = true)
    (inner : ι) :
    enforcement.amount service inner (.request request) = [] := by
  simp [amount, limiterEvent?, exempt]

theorem amount_of_checked
    {inner : ι}
    {request : Request}
    (ready : service.unready? inner = none)
    (checked : enforcement.isExempt request.path = false) :
    enforcement.amount service inner (.request request) =
      [.consume (enforcement.resolver.resolve request)] := by
  simp [amount, comesThrough, limiterEvent?, ready, checked]

/-- The clock is only set between requests. -/
theorem filterMap_reading?_amount
    (inner : ι)
    (turn : Turn Limiter.Event) :
    (enforcement.amount service inner turn).filterMap Limiter.Event.reading? =
      turn.between?.toList.filterMap Limiter.Event.reading? := by
  cases turn with
  | between event => rfl
  | request request =>
      rw [amount, limiterEvent?]
      split
      · split <;> rfl
      · rfl

theorem filterMap_reading?_driven
    (state : Guarded Limiter ι)
    (turns : List (Turn Limiter.Event)) :
    (enforcement.driven service state turns).filterMap Limiter.Event.reading? =
      (turns.filterMap Turn.between?).filterMap Limiter.Event.reading? := by
  induction turns generalizing state with
  | nil => rfl
  | cons turn turns inductionHypothesis =>
      rw [driven, List.filterMap_append, filterMap_reading?_amount,
        inductionHypothesis, ← List.filterMap_append]
      congr 1
      rw [List.filterMap_cons]
      cases turn <;> rfl

/-- A run clears the limiter only between requests. -/
theorem mem_turns_of_clear_mem_driven
    {state : Guarded Limiter ι}
    {turns : List (Turn Limiter.Event)}
    (cleared : .clear ∈ enforcement.driven service state turns) :
    .between .clear ∈ turns := by
  induction turns generalizing state with
  | nil => cases cleared
  | cons turn turns inductionHypothesis =>
      obtain first | later := List.mem_append.1 cleared
      · cases turn with
        | between event =>
            cases List.mem_singleton.1 first
            exact List.mem_cons_self
        | request request =>
            rw [amount, limiterEvent?] at first
            split at first
            · split at first <;> cases first
              contradiction
            · cases first
      · exact List.mem_cons_of_mem _ (inductionHypothesis later)

/-- The visit of a bare request comes with a grant of its key. -/
theorem countP_isBareVisit_le_granted
    {key : String}
    {peer : Address}
    (keyed : ∀ request, ComesBareFrom peer request →
      enforcement.resolver.resolve request = key)
    (opening closing : Int)
    {limiter after : Limiter}
    {request : Request}
    {decision : Decision}
    (consulted : limiter.consume (enforcement.resolver.resolve request) =
      (after, decision))
    (allowed : decision.isAllowed = true) :
    List.countP (enforcement.isBareVisit peer opening closing)
        [{ limiter := after, request }] ≤
      Limiter.granted key opening closing
        (limiter.calls [.consume (enforcement.resolver.resolve request)]) := by
  rw [List.countP_singleton]
  split
  · next bareVisit =>
      obtain ⟨bare, -, opened, closed⟩ := of_decide_eq_true bareVisit
      have sameClock : limiter.clock = after.clock :=
        congrArg (·.1.clock) consulted
      have decided : (limiter.consume
          (enforcement.resolver.resolve request)).2.isAllowed = true := by
        rw [consulted]
        exact allowed
      rw [← sameClock] at opened closed
      rw [Limiter.granted, Nat.one_le_iff_ne_zero, ← Nat.pos_iff_ne_zero,
        List.countP_pos_iff]
      exact ⟨_, List.mem_singleton_self _,
        decide_eq_true ⟨keyed request bare, decided, opened, closed⟩⟩
  · exact Nat.zero_le _

/-- A turn takes the limiter where its events take it, and adds the visit of a bare
request only together with a grant of its key. -/
theorem visits_step
    {key : String}
    {peer : Address}
    (keyed : ∀ request, ComesBareFrom peer request →
      enforcement.resolver.resolve request = key)
    (opening closing : Int)
    (observed : Observed Limiter ι)
    (turn : Turn Limiter.Event) :
    let events := enforcement.amount service observed.inner.state turn
    let next := (enforcement.step Limiting.ofBuckets.noting service.noting
      observed turn).1
    next.limiter.state = (observed.limiter.state.run events).1 ∧
      next.inner.notes.countP
          (enforcement.isBareVisit peer opening closing) ≤
        observed.inner.notes.countP
            (enforcement.isBareVisit peer opening closing) +
          Limiter.granted key opening closing
            (observed.limiter.state.calls events) := by
  cases turn with
  | between event => exact ⟨rfl, Nat.le_add_right ..⟩
  | request request =>
      intro events next
      cases readiness : service.unready? observed.inner.state with
      | some error =>
          have unready : service.noting.unready? observed.inner = some error :=
            readiness
          have same : next = observed := drive_of_unready unready
          have nothing : events = [] :=
            enforcement.amount_of_unready service readiness request
          rw [same, nothing]
          exact ⟨rfl, Nat.le_add_right ..⟩
      | none =>
          cases exempt : enforcement.isExempt request.path with
          | true =>
              obtain ⟨same, visited, -⟩ := accounts_of_exempt enforcement
                Limiting.ofBuckets service readiness exempt
              have nothing : events = [] :=
                enforcement.amount_of_exempt service exempt _
              have notBare : enforcement.isBareVisit peer opening closing
                  { limiter := observed.limiter.state, request } = false := by
                simp [isBareVisit, exempt]
              change next.limiter = _ at same
              change next.inner.notes = _ at visited
              rw [nothing, same, visited, List.countP_append,
                List.countP_singleton, notBare]
              exact ⟨rfl, Nat.le_add_right ..⟩
          | false =>
              obtain ⟨decision, consulted, -, allowed, denied⟩ :=
                accounts_of_checked enforcement Limiting.ofBuckets service
                  readiness exempt
              change Limiter.consume _ _ = (next.limiter.state, _) at consulted
              have once : events = _ :=
                enforcement.amount_of_checked service readiness exempt
              have left : next.limiter.state = (observed.limiter.state.consume
                  (enforcement.resolver.resolve request)).1 := by
                rw [consulted]
              rw [once]
              refine ⟨left, ?_⟩
              cases decided : decision.isAllowed with
              | false =>
                  have unvisited : next.inner = _ := (denied decided).1
                  rw [unvisited]
                  exact Nat.le_add_right ..
              | true =>
                  have visited : next.inner.notes = _ := (allowed decided).1
                  rw [visited, List.countP_append]
                  exact Nat.add_le_add_left
                    (enforcement.countP_isBareVisit_le_granted keyed opening
                      closing consulted decided) _

/-- The bare requests that a run lets through in a window of time are at most what
the limiter grants their key. -/
theorem visits_run
    {key : String}
    {peer : Address}
    (keyed : ∀ request, ComesBareFrom peer request →
      enforcement.resolver.resolve request = key)
    (opening closing : Int)
    (observed : Observed Limiter ι)
    (turns : List (Turn Limiter.Event)) :
    (enforcement.run Limiting.ofBuckets.noting service.noting observed
        turns).1.inner.notes.countP
          (enforcement.isBareVisit peer opening closing) ≤
      observed.inner.notes.countP
          (enforcement.isBareVisit peer opening closing) +
        Limiter.granted key opening closing (observed.limiter.state.calls
          (enforcement.driven service observed.plain turns)) := by
  induction turns generalizing observed with
  | nil => exact Nat.le_add_right ..
  | cons turn turns inductionHypothesis =>
      obtain ⟨left, visits⟩ := enforcement.visits_step service keyed opening
        closing observed turn
      have tail := inductionHypothesis (enforcement.step
        Limiting.ofBuckets.noting service.noting observed turn).1
      rw [left] at tail
      rw [run_cons, driven, step_noting, Limiter.calls_append,
        Limiter.granted, List.countP_append]
      rw [Limiter.granted] at tail visits
      dsimp only [Guarded.plain] at tail visits ⊢
      omega

end Driven

/-- A peer outside of every trusted network cannot widen its budget with forwarding
headers.  Its requests without a bearer token are counted under its address.  Two
runs of a new limiter in which the same turns come through, up to the forwarding
headers of such requests, leave it with the same state and the same decisions.
And of such requests no more reach the service in a window of time than the one
bucket allows, as long as the clock never goes back and nobody is forgotten. -/
theorem forwarding_headers_widen_no_budget
    (policy : Policy)
    (clock : Clock)
    (peer : Address)
    (configured : enforcement.resolver.proxies.ranges ≠ [])
    (untrusted : ∀ range ∈ enforcement.resolver.proxies.ranges,
      range.contains peer = false) :
    (∀ request, ComesBareFrom peer request →
        enforcement.resolver.resolve request =
          "ip:" ++ String.ofList peer.print) ∧
      (∀ {ι κ ε δ : Type}
          (service : Service Limiter ι ε)
          (other : Service Limiter κ δ)
          (start : Guarded Limiter ι)
          (otherStart : Guarded Limiter κ)
          (turns otherTurns : List (Turn Limiter.Event)),
        start.limiter = .start policy clock →
        otherStart.limiter = .start policy clock →
        List.Forall₂ (Turn.Alike peer)
          (enforcement.heard Limiting.ofBuckets service start turns)
          (enforcement.heard Limiting.ofBuckets other otherStart otherTurns) →
        (enforcement.run Limiting.ofBuckets.noting service.noting
            start.observed turns).1.limiter =
          (enforcement.run Limiting.ofBuckets.noting other.noting
            otherStart.observed otherTurns).1.limiter) ∧
      ∀ {ι ε : Type}
          (service : Service Limiter ι ε)
          (start : Guarded Limiter ι)
          (turns : List (Turn Limiter.Event))
          (opening closing : Int),
        start.limiter = .start policy clock →
        .between .clear ∉ turns →
        start.limiter.Ascending (turns.filterMap Turn.between?) →
        opening ≤ closing →
        (enforcement.run Limiting.ofBuckets.noting service.noting
            start.observed turns).1.inner.notes.countP
              (enforcement.isBareVisit peer opening closing) ≤
          policy.capacity.toNat + policy.refillRate.toNat *
            ((closing - opening).toNat ⌈/⌉ policy.intervalMs.toNat) := by
  have keyed request (bare : ComesBareFrom peer request) :
      enforcement.resolver.resolve request =
        "ip:" ++ String.ofList peer.print :=
    Resolver.resolve_of_bare
      (Resolver.believes_eq_false configured untrusted) bare
  refine ⟨keyed, ?alike, ?bound⟩
  case alike =>
    intro ι κ ε δ service other start otherStart turns otherTurns fresh
      otherFresh alike
    have sameStart : start.observed.limiter = otherStart.observed.limiter := by
      rw [Guarded.observed, Guarded.observed, fresh, otherFresh]
    rw [limiter_run, limiter_run, heard_noting, heard_noting, sameStart]
    exact enforcement.foldl_impact_of_alike keyed _ _ alike
  case bound =>
    intro ι ε service start turns opening closing fresh uncleared ascending
      ordered
    have visits := enforcement.visits_run service keyed opening closing
      start.observed turns
    have ascendingDriven : (Limiter.start policy clock).Ascending
        (enforcement.driven service start turns) := by
      rw [Limiter.Ascending, Limiter.readings,
        enforcement.filterMap_reading?_driven, ← fresh]
      exact ascending
    have grants := Limiter.granted_le_of_ascending
      (Limiter.settled_start policy clock)
      (Limiter.follows_start ascendingDriven)
      (fun cleared => uncleared
        (enforcement.mem_turns_of_clear_mem_driven service cleared))
      ("ip:" ++ String.ofList peer.print) ordered
    have begun : start.observed.limiter.state = .start policy clock := fresh
    rw [begun] at visits
    exact (visits.trans_eq (Nat.zero_add _)).trans grants

/-- One token a second, and a peer that names other clients in each request.  It gets
two requests through in a second, and the limiter is left as when it names
nobody. -/
theorem two_visits_in_a_second_under_changing_names :
    let enforcement : Enforcement :=
      { exemptPaths := ["/health"]
        resolver := { proxies := .ofEntries ["10.0.0.0/8", "elsewhere"] } }
    let peer : Address := .v4 (BitVec.ofNat 32 0xCB00_7109)
    let get (names : List String) : Request :=
      { method := "GET"
        target := "/ping"
        headers := { fields := names.map fun name =>
          ("x-forwarded-for", Utf8.ofAscii name.toList) }
        peer := some { address := peer, scope := 0, port := 50000 } }
    let start : Guarded Limiter Unit :=
      { limiter := .start .single { nowMs := 0 }, inner := (), metrics := .none }
    let turns (first second third : List String) : List (Turn Limiter.Event) :=
      [.request (get first), .request (get second), .between (.setClock 1000),
        .between .evictIdle, .request (get third)]
    let spoofed := turns ["198.51.100.1"]
      ["198.51.100.2, 10.0.0.1", "198.51.100.3"] ["198.51.100.4"]
    let handle (turns : List (Turn Limiter.Event)) :=
      (enforcement.run Limiting.ofBuckets.noting failing.noting start.observed
        turns).1
    enforcement.resolver.resolve (get ["198.51.100.1"]) = "ip:203.0.113.9" ∧
      (handle spoofed).limiter = (handle (turns [] [] [])).limiter ∧
      (handle spoofed).inner.notes.countP
        (enforcement.isBareVisit peer 0 1000) = 2 ∧
      (handle spoofed).inner.notes.countP
        (enforcement.isBareVisit peer 0 1000) ≤ 1 + 1 * (1000 ⌈/⌉ 1000) := by
  intro enforcement peer get start turns spoofed handle
  have configured : enforcement.resolver.proxies.ranges ≠ [] := by
    decide +kernel
  have untrusted : ∀ range ∈ enforcement.resolver.proxies.ranges,
      range.contains peer = false := by decide +kernel
  obtain ⟨keyed, alike, bound⟩ := enforcement.forwarding_headers_widen_no_budget
    .single { nowMs := 0 } peer configured untrusted
  have values (names : List String)
      (name : String)
      (other : name ≠ "x-forwarded-for") :
      (get names).headers.values name = [] := by
    simp [get, Headers.values, Ne.symm other]
  have bare (names : List String) : ComesBareFrom peer (get names) := by
    refine ⟨rfl, ?_⟩
    rw [Headers.first?, values names _ (by decide)]
    intro value presented
    cases presented
  have request (names others : List String) :
      Turn.Alike peer (ω := Limiter.Event) (.request (get names))
        (.request (get others)) :=
    .forwarding (bare names)
      { method := rfl
        target := rfl
        peer := rfl
        values := fun name other => by
          rw [values names name other, values others name other] }
  have ready : ∀ inner, (failing (σ := Limiter)).unready? inner = none :=
    fun _ => rfl
  have sameTurns : List.Forall₂ (Turn.Alike peer)
      (enforcement.heard Limiting.ofBuckets failing start spoofed)
      (enforcement.heard Limiting.ofBuckets failing start (turns [] [] [])) := by
    rw [heard_of_ready _ _ _ ready, heard_of_ready _ _ _ ready]
    exact .cons (request _ _) (.cons (request _ _) (.cons (.same _)
      (.cons (.same _) (.cons (request _ _) .nil))))
  dsimp only [handle]
  exact ⟨(keyed _ (bare _)).trans (by decide +kernel),
    alike failing failing start start spoofed _ rfl rfl sameTurns,
    by decide +kernel,
    bound failing start spoofed 0 1000 rfl (by decide +kernel)
      (by decide +kernel) (by decide)⟩

end Enforcement
end Turnstile
