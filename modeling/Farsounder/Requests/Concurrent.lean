import Farsounder.Data.Linearization
import Farsounder.Data.Transition
import Farsounder.Requests.Exchange

namespace Farsounder.Requests

open Config
open Data
open Data.Wire (Bytes)

/-! Calls that are made while others are still waiting, by `std::async` or on
threads of the user's.  Each has a copy of its config, a ZeroMQ context and a
socket of its own; what they share is the server.  Requests and replies are
carried in any order and may be lost. -/

inductive SendEvent where
  | sends
  | connectThrows
  | sendThrows
  | timesOut
  deriving DecidableEq, Repr

/-- `send_request` up to `send`: what it sends, and to which address. -/
def attempt (platform : Platform) (config : ClientConfig) (call : Call)
    (event : SendEvent) :
    Except Failure (String × Bytes) := do
  let _ ← toTimeoutMs platform.times1000 config.timeoutSeconds
  let address ← endpointAddress config call.endpoint
  if event = .connectThrows then
    throw (.zmqError .connect)
  match platform.serialize call.request with
  | none => throw (.runtimeError "Failed to serialize request")
  | some payload =>
      match event with
      | .sendThrows => throw (.zmqError .send)
      | .timesOut => throw (.runtimeError "Failed to send request")
      | .sends | .connectThrows => return (address, payload)

/-- The request, where nothing goes wrong. -/
def prepare (platform : Platform) (config : ClientConfig) (call : Call) :
    Except Failure (String × Bytes) :=
  attempt platform config call .sends

theorem sends_of_attempt {platform : Platform} {config : ClientConfig}
    {call : Call} {event : SendEvent} {sent : String × Bytes}
    (attempted : attempt platform config call event = .ok sent) :
    event = .sends := by
  unfold attempt at attempted
  generalize toTimeoutMs platform.times1000 config.timeoutSeconds = converted
    at attempted
  generalize endpointAddress config call.endpoint = resolved at attempted
  cases converted with
  | error failure => contradiction
  | ok timeoutMs =>
      cases resolved with
      | error failure => contradiction
      | ok address =>
          generalize platform.serialize call.request = serialized at attempted
          cases event with
          | sends => rfl
          | connectThrows => contradiction
          | sendThrows | timesOut => cases serialized <;> contradiction

def timedOut : Failure := .runtimeError "Timed out waiting for response"

/-- The failures of a call that waits for its reply. -/
def FailsWaiting (failure : Failure) : Prop :=
  failure = timedOut ∨ failure = .zmqError .recv

inductive Progress where
  | starting
  /-- In `recv`. -/
  | waiting
  | answered (reply : Bytes)
  | failed (failure : Failure)
  deriving DecidableEq, Repr

structure Caller where
  call : Call
  config : ClientConfig
  progress : Progress := .starting
  /-- The calls that had been answered when this one was made. -/
  earlier : List Nat

structure Session (σ : Type) where
  server : σ
  callers : List Caller := []
  /-- On their way to the server. -/
  requests : List (Nat × String × Bytes) := []
  /-- On their way back. -/
  replies : List (Nat × Bytes) := []
  /-- The requests that the server has taken, in order, with its replies. -/
  log : List (Nat × Bytes) := []

inductive SessionLabel where
  | call (call : Call) (config : ClientConfig)
  | send (id : Nat) (event : SendEvent)
  | serve (position : Nat)
  | loseRequest (position : Nat)
  | receive (position : Nat)
  | loseReply (position : Nat)
  | timeOut (id : Nat)
  | receiveThrows (id : Nat)

def Progress.stage : Progress → Stage Bytes
  | starting | waiting => .waiting
  | answered reply => .answered reply
  | failed _ => .gaveUp

def Caller.client (caller : Caller) : Client (ClientConfig × Call) Bytes where
  operation := (caller.config, caller.call)
  stage := caller.progress.stage
  earlier := caller.earlier

/-- What the function returns to its caller, or throws. -/
def Caller.outcome? (platform : Platform) (caller : Caller) :
    Option (Except Failure Response) :=
  match caller.progress with
  | .starting | .waiting => none
  | .answered reply => some (caller.call.finish platform reply)
  | .failed failure => some (.error failure)

namespace Session

variable {σ : Type}

/-- The calls as operations on the server. -/
def shared (session : Session σ) : Shared σ (ClientConfig × Call) Bytes where
  object := session.server
  clients := session.callers.map Caller.client
  log := session.log

def setProgress (session : Session σ) (id : Nat) (progress : Progress) :
    Session σ :=
  { session with callers := session.callers.modify id fun caller =>
    { caller with progress } }

def next (platform : Platform) (serve : σ → String → Bytes → σ × Bytes) :
    StepFn (Session σ) SessionLabel :=
  fun session label =>
    match label with
    | .call call config =>
        some { session with
          callers := session.callers ++
            [{ call, config, earlier := session.shared.answered }] }
    | .send id event => do
        let caller ← session.callers[id]?
        if caller.progress = .starting then
          match attempt platform caller.config caller.call event with
          | .error failure => some (session.setProgress id (.failed failure))
          | .ok (address, payload) =>
              some { session.setProgress id .waiting with
                requests := session.requests ++ [(id, address, payload)] }
        else none
    | .serve position => do
        let (id, address, payload) ← session.requests[position]?
        let (server, reply) := serve session.server address payload
        some { session with
          server
          requests := session.requests.eraseIdx position
          replies := session.replies ++ [(id, reply)]
          log := session.log ++ [(id, reply)] }
    | .loseRequest position =>
        some { session with requests := session.requests.eraseIdx position }
    | .receive position => do
        let (id, reply) ← session.replies[position]?
        let caller ← session.callers[id]?
        if caller.progress = .waiting then
          some { session.setProgress id (.answered reply) with
            replies := session.replies.eraseIdx position }
        else none
    | .loseReply position =>
        some { session with replies := session.replies.eraseIdx position }
    | .timeOut id => giveUp session id timedOut
    | .receiveThrows id => giveUp session id (.zmqError .recv)
where
  giveUp (session : Session σ) (id : Nat) (failure : Failure) :
    Option (Session σ) := do
    let caller ← session.callers[id]?
    if caller.progress = .waiting then
      some (session.setProgress id (.failed failure)) else none

variable {platform : Platform}

/-- The failures of a call that has not sent its request. -/
def FailsUnsent (platform : Platform) (caller : Caller)
    (failure : Failure) : Prop :=
  ∃ event, attempt platform caller.config caller.call event = .error failure

/-- What one step can do. -/
inductive Step (platform : Platform) (serve : σ → String → Bytes → σ × Bytes)
    (session : Session σ) : Session σ → Prop
  | call (call : Call) (config : ClientConfig) :
      Step platform serve session
        { session with
          callers :=
  session.callers ++ [{ call, config, earlier := session.shared.answered }] }
  | fails {id : Nat} {caller : Caller} {failure : Failure}
      (found : session.callers[id]? = some caller)
      (starting : caller.progress = .starting)
      (unsent : FailsUnsent platform caller failure) :
      Step platform serve session (session.setProgress id (.failed failure))
  | sends {id : Nat} {caller : Caller} {address : String} {payload : Bytes}
      (found : session.callers[id]? = some caller)
      (starting : caller.progress = .starting)
      (prepared : prepare platform caller.config caller.call =
        .ok (address, payload)) :
      Step platform serve session
        { session.setProgress id .waiting with
          requests := session.requests ++ [(id, address, payload)] }
  | serve {position id : Nat} {address : String} {payload : Bytes}
      (taken : session.requests[position]? = some (id, address, payload)) :
      Step platform serve session
        { session with
          server := (serve session.server address payload).1
          requests := session.requests.eraseIdx position
          replies :=
            session.replies ++ [(id, (serve session.server address payload).2)]
          log := session.log ++
            [(id, (serve session.server address payload).2)] }
  | receive {position id : Nat} {caller : Caller} {reply : Bytes}
      (arrived : session.replies[position]? = some (id, reply))
      (found : session.callers[id]? = some caller)
      (waiting : caller.progress = .waiting) :
      Step platform serve session
        { session.setProgress id (.answered reply) with
          replies := session.replies.eraseIdx position }
  | givesUp {id : Nat} {caller : Caller} {failure : Failure}
      (found : session.callers[id]? = some caller)
      (waiting : caller.progress = .waiting)
      (fails : FailsWaiting failure) :
      Step platform serve session (session.setProgress id (.failed failure))
  | lose {requests : List (Nat × String × Bytes)} {replies : List (Nat × Bytes)}
      (fewer : requests.Sublist session.requests)
      (fewer' : replies.Sublist session.replies) :
      Step platform serve session { session with requests, replies }

variable {serve : σ → String → Bytes → σ × Bytes} {session after : Session σ}

theorem step_of_giveUp {id : Nat} {failure : Failure}
    (fails : FailsWaiting failure)
    (taken : next.giveUp session id failure = some after) :
    Step platform serve session after := by
  obtain ⟨caller, found, expired⟩ := Option.bind_eq_some_iff.mp taken
  split at expired
  · rename_i waiting
    obtain rfl := Option.some.inj expired
    exact .givesUp found waiting fails
  · contradiction

theorem next_step {label : SessionLabel}
    (taken : next platform serve session label = some after) :
    Step platform serve session after := by
  cases label with
  | call call config =>
      obtain rfl := Option.some.inj taken
      exact .call call config
  | send id event =>
      obtain ⟨caller, found, sent⟩ := Option.bind_eq_some_iff.mp taken
      split at sent
      · rename_i starting
        cases attempted : attempt platform caller.config caller.call event with
        | error failure =>
            rw [attempted] at sent
            obtain rfl := Option.some.inj sent
            exact .fails found starting ⟨event, attempted⟩
        | ok request =>
            obtain rfl := sends_of_attempt attempted
            rw [attempted] at sent
            obtain rfl := Option.some.inj sent
            exact .sends found starting attempted
      · contradiction
  | serve position =>
      obtain ⟨⟨id, address, payload⟩, arrived, served⟩ :=
        Option.bind_eq_some_iff.mp taken
      obtain rfl := Option.some.inj served
      exact .serve arrived
  | loseRequest position =>
      obtain rfl := Option.some.inj taken
      exact .lose (List.eraseIdx_sublist _ _) (List.Sublist.refl _)
  | receive position =>
      obtain ⟨⟨id, reply⟩, arrived, received⟩ :=
        Option.bind_eq_some_iff.mp taken
      obtain ⟨caller, found, received⟩ := Option.bind_eq_some_iff.mp received
      split at received
      · rename_i waiting
        obtain rfl := Option.some.inj received
        exact .receive arrived found waiting
      · contradiction
  | loseReply position =>
      obtain rfl := Option.some.inj taken
      exact .lose (List.Sublist.refl _) (List.eraseIdx_sublist _ _)
  | timeOut id => exact step_of_giveUp (.inl rfl) taken
  | receiveThrows id => exact step_of_giveUp (.inr rfl) taken

/-- What the server does for a call; nothing where the call throws before it
sends. -/
def served (platform : Platform) (serve : σ → String → Bytes → σ × Bytes)
    (state : σ) :
    ClientConfig × Call → σ × Bytes
  | (config, call) =>
      match prepare platform config call with
      | .ok (address, payload) => serve state address payload
      | .error _ => (state, [])

/-! What is on its way. -/

end Session

/-- The request of the call may be on its way, or taken. -/
def Progress.Sent : Progress → Prop
  | starting => False
  | waiting | answered _ => True
  | failed failure => FailsWaiting failure

/-- Why a call is where it is. -/
def Caller.Explained (platform : Platform) (caller : Caller) : Prop :=
  match caller.progress with
  | .starting => True
  | .waiting | .answered _ =>
      ∃ sent, prepare platform caller.config caller.call = .ok sent
  | .failed failure => Session.FailsUnsent platform caller failure ∨
      FailsWaiting failure ∧ ∃ sent,
      prepare platform caller.config caller.call = .ok sent

namespace Session

variable {σ : Type} {platform : Platform}
  {serve : σ → String → Bytes → σ × Bytes} {session after : Session σ}

structure Tracked (platform : Platform) (session : Session σ) : Prop where
  explained : ∀ caller ∈ session.callers, caller.Explained platform
  requested : ∀ {id address payload},
    (id, address, payload) ∈ session.requests →
    ∃ caller, session.callers[id]? = some caller ∧ caller.progress.Sent ∧
      prepare platform caller.config caller.call = .ok (address, payload)
  taken : ∀ id ∈ session.log.map Prod.fst,
    ∃ caller, session.callers[id]? = some caller ∧ caller.progress.Sent
  distinct : (session.requests.map Prod.fst ++ session.log.map Prod.fst).Nodup
  replied : ∀ entry ∈ session.replies, entry ∈ session.log

theorem tracked_initial (server : σ) :
    Tracked platform ({ server } : Session σ) := by
  constructor <;> simp

theorem getElem?_setProgress {id index : Nat} {progress : Progress}
    {caller : Caller} (found : session.callers[index]? = some caller) :
    (session.setProgress id progress).callers[index]? =
      some (if id = index then { caller with progress } else caller) := by
  rw [setProgress, List.getElem?_modify, found]
  by_cases same : id = index <;> simp [same]

theorem mem_setProgress {id : Nat} {progress : Progress} {caller : Caller}
    (member : caller ∈ (session.setProgress id progress).callers) :
    caller ∈ session.callers ∨
      ∃ before, session.callers[id]? = some before ∧
        caller = { before with progress } := by
  obtain ⟨index, found⟩ := List.mem_iff_getElem?.mp member
  rw [setProgress, List.getElem?_modify, Option.map_eq_map,
    Option.map_eq_some_iff] at found
  obtain ⟨before, found, rfl⟩ := found
  by_cases same : id = index
  · subst same
    exact .inr ⟨before, found, if_pos rfl⟩
  · rw [if_neg same]
    exact .inl (List.mem_of_getElem? found)

/-- A call that goes on keeps what is tracked, if it stays sent. -/
theorem Tracked.setProgress (tracked : Tracked platform session) {id : Nat}
    {caller : Caller} {progress : Progress}
    (found : session.callers[id]? = some caller)
    (explained : Caller.Explained platform { caller with progress })
    (sent : caller.progress.Sent → progress.Sent) :
    Tracked platform (session.setProgress id progress) where
  explained := by
    intro other member
    cases mem_setProgress member with
    | inl old => exact tracked.explained other old
    | inr new =>
        obtain ⟨before, found', rfl⟩ := new
        obtain rfl := Option.some.inj (found.symm.trans found')
        exact explained
  requested := by
    intro index address payload requested
    obtain ⟨other, found', others, prepared⟩ := tracked.requested requested
    refine ⟨_, getElem?_setProgress found', ?_⟩
    by_cases same : id = index
    · subst same
      obtain rfl := Option.some.inj (found.symm.trans found')
      rw [if_pos rfl]
      exact ⟨sent others, prepared⟩
    · rw [if_neg same]
      exact ⟨others, prepared⟩
  taken := by
    intro index taken
    obtain ⟨other, found', others⟩ := tracked.taken index taken
    refine ⟨_, getElem?_setProgress found', ?_⟩
    by_cases same : id = index
    · subst same
      obtain rfl := Option.some.inj (found.symm.trans found')
      rw [if_pos rfl]
      exact sent others
    · rw [if_neg same]
      exact others
  distinct := tracked.distinct
  replied := tracked.replied

theorem Tracked.call (tracked : Tracked platform session) (caller : Caller)
    (starting : caller.progress = .starting) :
    Tracked platform { session with callers := session.callers ++
      [caller] } := by
  have kept {id : Nat} {other : Caller}
      (found : session.callers[id]? = some other) :
      (session.callers ++ [caller])[id]? = some other := by
    rw [List.getElem?_append_left (List.getElem?_eq_some_iff.mp found).1, found]
  refine ⟨?_, ?_, ?_, tracked.distinct, tracked.replied⟩
  · intro other member
    cases List.mem_append.mp member with
    | inl old => exact tracked.explained other old
    | inr new =>
        obtain rfl := List.mem_singleton.mp new
        simp [Caller.Explained, starting]
  · intro id address payload requested
    obtain ⟨other, found, sent⟩ := tracked.requested requested
    exact ⟨other, kept found, sent⟩
  · intro id taken
    obtain ⟨other, found, sent⟩ := tracked.taken id taken
    exact ⟨other, kept found, sent⟩

/-- Nothing of a call that has not been sent is on its way. -/
theorem Tracked.unsent (tracked : Tracked platform session) {id : Nat}
    {caller : Caller} (found : session.callers[id]? = some caller)
    (unsent : ¬ caller.progress.Sent) :
    id ∉ session.requests.map Prod.fst ++ session.log.map Prod.fst := by
  intro sent
  cases List.mem_append.mp sent with
  | inl requested =>
      obtain ⟨⟨_, address, payload⟩, underway, rfl⟩ := List.mem_map.mp requested
      obtain ⟨other, found', sent, _⟩ := tracked.requested underway
      obtain rfl := Option.some.inj (found.symm.trans found')
      exact unsent sent
  | inr taken =>
      obtain ⟨other, found', sent⟩ := tracked.taken id taken
      obtain rfl := Option.some.inj (found.symm.trans found')
      exact unsent sent

theorem Tracked.sends (tracked : Tracked platform session) {id : Nat}
    {caller : Caller} {address : String} {payload : Bytes}
    (found : session.callers[id]? = some caller)
    (starting : caller.progress = .starting)
    (prepared : prepare platform caller.config caller.call =
      .ok (address, payload)) :
    Tracked platform { session.setProgress id .waiting with
      requests := session.requests ++ [(id, address, payload)] } := by
  have unsent : ¬ caller.progress.Sent := by simp [starting, Progress.Sent]
  have fresh := tracked.unsent found unsent
  have waiting : Tracked platform (session.setProgress id .waiting) :=
    tracked.setProgress found ⟨_, prepared⟩ fun sent => absurd sent unsent
  refine ⟨waiting.explained, ?_, waiting.taken, ?_, waiting.replied⟩
  · intro index address' payload' requested
    cases List.mem_append.mp requested with
    | inl old => exact waiting.requested old
    | inr new =>
        obtain ⟨rfl, rfl, rfl⟩ := by
          simpa only [List.mem_singleton, Prod.mk.injEq] using new
        refine ⟨_, getElem?_setProgress found, ?_⟩
        rw [if_pos rfl]
        exact ⟨trivial, prepared⟩
  · have moved :
        (session.requests.map Prod.fst ++ [id] ++ session.log.map Prod.fst).Perm
        (id :: (session.requests.map Prod.fst ++
          session.log.map Prod.fst)) := by
      rw [List.append_assoc]
      exact List.perm_middle
    rw [List.map_append]
    exact moved.nodup_iff.mpr (List.nodup_cons.mpr ⟨fresh, tracked.distinct⟩)

theorem Tracked.takes (tracked : Tracked platform session) {position id : Nat}
    {address : String} {payload : Bytes}
    (arrived : session.requests[position]? = some (id, address, payload))
    (server : σ) (reply : Bytes) :
    Tracked platform { session with
      server
      requests := session.requests.eraseIdx position
      replies := session.replies ++ [(id, reply)]
      log := session.log ++ [(id, reply)] } where
  explained := tracked.explained
  requested requested :=
    tracked.requested ((List.eraseIdx_sublist _ _).subset requested)
  taken := by
    intro index taken
    rw [List.map_append, List.mem_append] at taken
    cases taken with
    | inl old => exact tracked.taken index old
    | inr new =>
        obtain rfl := List.mem_singleton.mp new
        obtain ⟨caller, found, sent, _⟩ := tracked.requested
            (List.mem_of_getElem? arrived)
        exact ⟨caller, found, sent⟩
  distinct := by
    obtain ⟨inBounds, taken⟩ := List.getElem?_eq_some_iff.mp arrived
    have erased := (List.getElem_cons_eraseIdx_perm inBounds).map Prod.fst
    rw [taken, List.map_cons] at erased
    have moved : ((session.requests.eraseIdx position).map Prod.fst ++
        (session.log.map Prod.fst ++ [id])).Perm
          (session.requests.map Prod.fst ++ session.log.map Prod.fst) := by
      rw [← List.append_assoc]
      exact List.perm_append_comm.trans
        (erased.append_right (session.log.map Prod.fst))
    rw [List.map_append]
    exact moved.nodup_iff.mpr tracked.distinct
  replied := by
    intro entry replied
    rw [List.mem_append] at replied ⊢
    exact replied.imp (tracked.replied entry) fun new => new

theorem Tracked.lose (tracked : Tracked platform session)
    {requests : List (Nat × String × Bytes)} {replies : List (Nat × Bytes)}
    (fewer : requests.Sublist session.requests)
    (fewer' : replies.Sublist session.replies) :
    Tracked platform { session with requests, replies } where
  explained := tracked.explained
  requested requested := tracked.requested (fewer.subset requested)
  taken := tracked.taken
  distinct :=
    tracked.distinct.sublist ((fewer.map _).append (List.Sublist.refl _))
  replied entry replied := tracked.replied entry (fewer'.subset replied)

theorem Tracked.prepared (tracked : Tracked platform session) {id : Nat}
    {caller : Caller} (found : session.callers[id]? = some caller)
    (waiting : caller.progress = .waiting) :
    ∃ sent, prepare platform caller.config caller.call = .ok sent := by
  have explained := tracked.explained caller (List.mem_of_getElem? found)
  rwa [Caller.Explained, waiting] at explained

theorem Step.tracked (step : Step platform serve session after)
    (tracked : Tracked platform session) :
    Tracked platform after := by
  cases step with
  | call call config => exact tracked.call _ rfl
  | fails found starting unsent =>
      refine tracked.setProgress found (.inl unsent) fun sent => ?_
      rw [starting] at sent
      contradiction
  | sends found starting prepared => exact tracked.sends found starting prepared
  | serve arrived => exact tracked.takes arrived _ _
  | @receive position id caller reply arrived found waiting =>
      have prepared := tracked.prepared found waiting
      have answered :
          Tracked platform (session.setProgress id (.answered reply)) :=
        tracked.setProgress found prepared fun _ => trivial
      exact answered.lose (List.Sublist.refl _) (List.eraseIdx_sublist _ _)
  | givesUp found waiting fails =>
      have prepared := tracked.prepared found waiting
      exact tracked.setProgress found (.inr ⟨fails, prepared⟩) fun _ => fails
  | lose fewer fewer' => exact tracked.lose fewer fewer'

/-! The calls are operations on the server. -/

theorem shared_setProgress (id : Nat) (progress : Progress) :
    (session.setProgress id progress).shared =
      session.shared.setStage id progress.stage := by
  have clients : (session.setProgress id progress).callers.map Caller.client =
      (session.shared.setStage id progress.stage).clients := by
    apply List.ext_getElem?
    intro index
    simp only [setProgress, Shared.setStage, shared, List.getElem?_map,
      List.getElem?_modify]
    cases session.callers[index]? with
    | none => rfl
    | some caller => by_cases same : id = index <;> simp [same, Caller.client]
  rw [shared, clients]
  rfl

theorem shared_client {id : Nat} {caller : Caller}
    (found : session.callers[id]? = some caller) :
    session.shared.clients[id]? = some caller.client := by
  rw [shared, List.getElem?_map, found]
  rfl

theorem Step.simulates (step : Step platform serve session after)
    (tracked : Tracked platform session) :
    Relation.ReflTransGen (Shared.Step (served platform serve)) session.shared
      after.shared := by
  cases step with
  | call call config =>
      have invoked : Shared.Step (served platform serve) session.shared _ :=
        .invoke (config, call)
      refine .single ?_
      simpa [shared, Caller.client, Progress.stage] using invoked
  | fails found starting unsent =>
      rw [shared_setProgress]
      refine .single (.giveUp (shared_client found) ?_)
      rw [Caller.client, starting]
      rfl
  | @sends id caller address payload found starting prepared =>
      have same :
          (session.setProgress id .waiting).shared = session.shared := by
        have stage : Progress.waiting.stage = caller.client.stage := by
          rw [Caller.client, starting]
          rfl
        rw [shared_setProgress, stage]
        exact Shared.setStage_self (shared_client found)
      exact same ▸ .refl
  | @serve position id address payload arrived =>
      obtain ⟨caller, found, _, prepared⟩ := tracked.requested
          (List.mem_of_getElem? arrived)
      have requested : id ∈ session.requests.map Prod.fst :=
        List.mem_map_of_mem (f := Prod.fst) (List.mem_of_getElem? arrived)
      have unapplied : id ∉ session.log.map Prod.fst := fun taken =>
        (List.nodup_append.mp tracked.distinct).2.2 id requested id taken rfl
      have applied : Shared.Step (served platform serve) session.shared _ :=
        .effect (shared_client found) unapplied
      simp only [served, Caller.client, prepared] at applied
      exact .single applied
  | @receive position id caller reply arrived found waiting =>
      have answered : Shared.Step (served platform serve) session.shared
          (session.setProgress id (.answered reply)).shared := by
        rw [shared_setProgress]
        refine .answer (shared_client found) ?_
          (tracked.replied _ (List.mem_of_getElem? arrived))
        rw [Caller.client, waiting]
        rfl
      exact .single answered
  | givesUp found waiting fails =>
      rw [shared_setProgress]
      refine .single (.giveUp (shared_client found) ?_)
      rw [Caller.client, waiting]
      rfl
  | lose fewer fewer' => exact .refl

section Reach

variable {initial : σ}
  (reach : Reach (next platform serve) (Unrestricted _ _)
    { server := initial } session)

include reach

theorem tracked_of_reach : Tracked platform session :=
  reach.invariant (tracked_initial initial) fun tracked _ taken =>
    (next_step taken).tracked tracked

theorem linearizable_of_reach :
    Shared.Linearizable (served platform serve) initial session.shared := by
  have simulated {before after : Session σ} {label : SessionLabel}
      (tracked : Tracked platform before)
      (_ : Unrestricted _ _ before label)
      (taken : next platform serve before label = some after) :
      Relation.ReflTransGen (Shared.Step (served platform serve)) before.shared
        after.shared :=
    (next_step taken).simulates tracked
  exact Shared.linearizable_of_steps
    (reach.simulates tracked_of_reach simulated)

end Reach

end Session

/-! What the callers get. -/

def SendEvent.result : SendEvent → SocketResult Unit
  | sends | connectThrows => .done ()
  | sendThrows => .throws
  | timesOut => .timedOut

def received : SocketResult Bytes → Except Failure Bytes
  | .done reply => .ok reply
  | .timedOut => .error timedOut
  | .throws => .error (.zmqError .recv)

/-- One exchange, whose network operations go as given. -/
def scripted (platform : Platform) (event : SendEvent)
    (result : SocketResult Bytes) : Runtime :=
  { platform with
    connects := fun _ => event ≠ .connectThrows
    sends := fun _ _ _ => event.result
    recv := fun _ _ _ => result }

theorem reply_scripted (platform : Platform) (config : ClientConfig)
    (call : Call) (event : SendEvent) (result : SocketResult Bytes) :
    call.reply (scripted platform event result) config =
      (attempt platform config call event).bind fun _ => received result := by
  rw [Call.reply_eq]
  unfold awaitReply attempt
  simp only [scripted]
  cases toTimeoutMs platform.times1000 config.timeoutSeconds with
  | error failure => rfl
  | ok timeoutMs =>
      cases endpointAddress config call.endpoint with
      | error failure => rfl
      | ok address =>
          cases event with
          | connectThrows => rfl
          | sends | sendThrows | timesOut =>
              cases platform.serialize call.request with
              | none => rfl
              | some payload => cases result <;> rfl

/-- A call that has returned or thrown has done what the function does on its
own, for some behaviour of the network. -/
theorem Caller.Explained.outcome {platform : Platform} {caller : Caller}
    (explained : caller.Explained platform) {outcome : Except Failure Response}
    (finished : caller.outcome? platform = some outcome) :
    ∃ event result,
      caller.call.run (scripted platform event result) caller.config = outcome ∧
      ∀ reply, caller.progress = .answered reply → event = .sends ∧
        result = .done reply := by
  simp only [Call.run_eq, reply_scripted]
  unfold Caller.Explained at explained
  unfold Caller.outcome? at finished
  cases progress : caller.progress with
  | starting | waiting => simp [progress] at finished
  | answered reply =>
      rw [progress] at explained finished
      obtain ⟨sent, prepared⟩ := explained
      obtain rfl := Option.some.inj finished
      refine ⟨.sends, .done reply, ?_, ?_⟩
      · rw [show attempt platform caller.config caller.call .sends = .ok sent
          from prepared]
        rfl
      · intro other same
        exact ⟨rfl, congrArg _ (Progress.answered.inj same)⟩
  | failed failure =>
      rw [progress] at explained finished
      obtain rfl := Option.some.inj finished
      have unanswered (event : SendEvent) (result : SocketResult Bytes)
          (reply : Bytes)
          (answered : Progress.failed failure = .answered reply) :
          event = .sends ∧ result = .done reply := by
        contradiction
      rcases explained with ⟨event, failed⟩ | ⟨rfl | rfl, sent, prepared⟩
      · refine ⟨event, .timedOut, ?_, unanswered _ _⟩
        rw [failed]
        rfl
      · refine ⟨.sends, .timedOut, ?_, unanswered _ _⟩
        rw [show attempt platform caller.config caller.call .sends = .ok sent
          from prepared]
        rfl
      · refine ⟨.sends, .throws, ?_, unanswered _ _⟩
        rw [show attempt platform caller.config caller.call .sends = .ok sent
          from prepared]
        rfl

/-- The failures of a call that had sent its request. -/
def FailsSent (failure : Failure) : Prop :=
  FailsWaiting failure ∨ failure = Call.unparsed

theorem Caller.failed_of_outcome {platform : Platform} {caller : Caller}
    {failure : Failure}
    (finished : caller.outcome? platform = some (.error failure))
    (unsent : ¬ FailsSent failure) : caller.progress = .failed failure := by
  unfold Caller.outcome? at finished
  cases progress : caller.progress with
  | starting | waiting => simp [progress] at finished
  | answered reply =>
      simp only [progress, Option.some.injEq, Call.finish] at finished
      cases parsed :
        Proto.parseFromArray (platform.parse caller.call.endpoint) reply with
      | none =>
          rw [parsed] at finished
          exact absurd (.inr (Except.error.inj finished).symm) unsent
      | some response =>
          rw [parsed] at finished
          contradiction
  | failed other =>
      simp only [progress, Option.some.injEq, Except.error.injEq] at finished
      rw [finished]

namespace Session

variable {σ : Type}

/-- However many calls are made at the same time, what they return is explained
by one order in which the server took the requests of some of them, each once:
the replies are those of the server in that order, and a call that returned
before another was made comes before it.  A call that fails has done what it
does on its own; only one that had sent its request, because it waited in vain
or could not read the reply, can have been served or still be. -/
theorem concurrent_calls_linearizable (platform : Platform)
    (serve : σ → String → Bytes → σ × Bytes) (initial : σ) (session : Session σ)
    (reach : Reach (next platform serve) (Unrestricted _ _)
      { server := initial } session) :
    Shared.Linearizable (served platform serve) initial session.shared ∧
    ∀ (id : Nat) caller, session.callers[id]? = some caller →
      (∀ outcome, caller.outcome? platform = some outcome →
        ∃ event result,
          caller.call.run (scripted platform event result) caller.config =
          outcome ∧
          ∀ reply, caller.progress = .answered reply →
            event = .sends ∧ result = .done reply) ∧
      ∀ failure, caller.outcome? platform = some (.error failure) →
      ¬ FailsSent failure →
        id ∉ session.requests.map Prod.fst ∧ id ∉ session.log.map Prod.fst := by
  have tracked := tracked_of_reach reach
  refine ⟨linearizable_of_reach reach, fun id caller found => ⟨?_, ?_⟩⟩
  · intro outcome finished
    exact (tracked.explained caller (List.mem_of_getElem? found)).outcome
      finished
  · intro failure finished other
    have failed := caller.failed_of_outcome finished other
    have unsent := tracked.unsent found
      (by rw [failed]; exact fun waited => other (.inl waited))
    rw [List.mem_append, not_or] at unsent
    exact unsent

end Session

end Farsounder.Requests
