import Mathlib.Data.List.TakeWhile
import VacancyRadar.Data.Json
import VacancyRadar.Sse.Writer

/-!
# The peer of the app server

`app-server/rpc.ts`: the output of the app server is cut into frames, a frame settles a request or goes to a
handler, and an error ends everything.  A handler may send requests, fail or shut down before it returns.
-/

namespace VacancyRadar.Codex

open Data
open Sse (utf8ByteLength)

/-! ## Messages -/

inductive RpcId where
  | number (value : ℤ)
  | text (value : String)
deriving DecidableEq

/-- `isRpcId`. -/
def rpcId : Option Json → Option RpcId
  | some (.num (.finite value)) =>
    if value.den = 1 ∧ value.num.natAbs < 2 ^ 53 then some (.number value.num) else none
  | some (.str text) => if text ≠ "" ∧ utf8ByteLength text.toList ≤ 256 then some (.text text) else none
  | _ => none

/-- The codes of a `CodexAppServerProtocolError` that the peer uses, and what a handler threw. -/
inductive RpcError where
  | closed (message : String)
  | forbiddenMethod (message : String)
  | frameInvalid (message : String)
  | frameTooLarge (message : String)
  | responseInvalid (message : String)
  | thrown (message : String)

inductive Message where
  | notification (method : String) (params : Option Json)
  | request (id : RpcId) (method : String) (params : Option Json)
  | response (id : RpcId) (fields : List (String × Json))

inductive Outcome where
  | response (fields : List (String × Json)) (result : Except RpcError (Option Json))
  | ended (error : RpcError)
  | unwritten (message : String)

inductive Event where
  | handled (frame : List UInt8)
  | dispatched (method : String) (params : Option Json)
  | settled (id : ℕ) (outcome : Outcome)
  | fatal (error : RpcError)

def Event.settled? : Event → Option ℕ
  | .settled id _ => some id
  | _ => none

inductive Action where
  | request (method : String) (encodes : Bool)
  | unwritten (id : ℕ) (message : String)
  | abandonIncomingRequest (id : RpcId)
  | fail (error : RpcError)
  | shutdown

structure Reaction where
  actions : List Action
  error : Option String

/-- What the peer is given: `JSON.parse` after `TextDecoder`, `validateJsonBounds`, the methods of
`app-server-support.ts`, and the handlers, which know everything that has happened. -/
structure Peer where
  parse : List UInt8 → Option Json
  inBounds : Json → Bool
  numberText : Number → String
  isOutgoingMethod : String → Bool
  isIncomingMethod : String → Bool
  isNotificationMethod : String → Bool
  onNotification : List Event → String → Option Json → Reaction
  onRequest : List Event → RpcId → String → Option Json → Reaction

def Peer.readMethod (peer : Peer) (fields : List (String × Json)) (method : Json) : Except RpcError Message :=
  let get := Json.field fields
  if (get "result").isSome ∨ (get "error").isSome then .error (.frameInvalid "Malformed RPC method envelope")
  else
    match method with
    | .str "" => .error (.frameInvalid "Invalid app-server method")
    | .str name =>
      if (get "id").isSome then
        match rpcId (get "id") with
        | some id => .ok (.request id name (get "params"))
        | none => .error (.frameInvalid "Invalid server request")
      else if peer.isNotificationMethod name then .ok (.notification name (get "params"))
      else .error (.forbiddenMethod ("Unsupported Codex server notification: " ++ name))
    | _ => .error (.frameInvalid "Invalid app-server method")

/-- A frame without a method, up to `handleResponse`. -/
def readResponse (fields : List (String × Json)) : Except RpcError Message :=
  let get := Json.field fields
  if (get "id").isNone ∨ (get "result").isSome = (get "error").isSome then
    .error (.responseInvalid "Malformed RPC response")
  else
    match rpcId (get "id") with
    | some id => .ok (.response id fields)
    | none => .error (.responseInvalid "Invalid RPC response id")

/-- The checks of `handleFrame` that look at the frame only. -/
def Peer.readFrame (peer : Peer) (frame : List UInt8) : Except RpcError Message :=
  if frame = [] then .error (.frameInvalid "Empty app-server JSON line")
  else
    match peer.parse frame with
    | none => .error (.frameInvalid "Codex app-server emitted invalid UTF-8 JSON")
    | some value =>
      if !peer.inBounds value then .error (.frameInvalid "App-server JSON exceeded structural bounds")
      else
        match value with
        | .obj fields =>
          if (Json.field fields "jsonrpc").isSome then .error (.frameInvalid "Malformed app-server envelope")
          else
            match Json.field fields "method" with
            | some method => peer.readMethod fields method
            | none => readResponse fields
        | _ => .error (.frameInvalid "Malformed app-server envelope")

/-! ## The peer -/

def maxFrameBytes : ℕ := 1024 * 1024

def maxCompletedRequestIds : ℕ := 10000

/-- `CodexAppServerRpc`, with what has happened.  The bytes of an unfinished line are the buffer. -/
structure Rpc where
  buffer : List UInt8 := []
  nextRequestId : ℕ := 1
  pending : List (ℕ × String) := []
  completed : List RpcId := []
  incomingRequestIds : List RpcId := []
  fatal : Bool := false
  log : List Event := []

namespace Rpc

def record (s : Rpc) (event : Event) : Rpc := { s with log := s.log ++ [event] }

def settledIds (s : Rpc) : List ℕ := s.log.filterMap Event.settled?

/-- `resolve` and `reject` of a `deferred`, which does nothing when it is settled. -/
def settle (s : Rpc) (id : ℕ) (outcome : Outcome) : Rpc :=
  if id ∈ s.settledIds then s else s.record (.settled id outcome)

/-- What `fail` and `shutdown` have in common. -/
def close (s : Rpc) (error : RpcError) : Rpc :=
  s.pending.foldl (fun s request => s.settle request.1 (.ended error))
    { s with buffer := [], pending := [], incomingRequestIds := [], fatal := true }

def fail (s : Rpc) (error : RpcError) : Rpc :=
  if s.fatal then s else (s.close error).record (.fatal error)

def shutdown (s : Rpc) : Rpc := if s.fatal then s else s.close (.closed "app-server RPC closed")

/-- `request`, up to its call of `write`. -/
def request (peer : Peer) (s : Rpc) (method : String) (encodes : Bool) : Rpc :=
  if !peer.isOutgoingMethod method || s.fatal then s
  else if 2 ^ 53 ≤ s.nextRequestId + 1 || !encodes then { s with nextRequestId := s.nextRequestId + 1 }
  else
    { s with nextRequestId := s.nextRequestId + 1, pending := s.pending ++ [(s.nextRequestId, method)] }

def unwritten (s : Rpc) (id : ℕ) (message : String) : Rpc :=
  if id ∈ s.pending.map Prod.fst then
    ({ s with pending := s.pending.filter fun request => request.1 ≠ id } : Rpc).settle id (.unwritten message)
  else s

def abandonIncomingRequest (s : Rpc) (id : RpcId) : Rpc :=
  { s with incomingRequestIds := s.incomingRequestIds.filter (· ≠ id) }

def act (peer : Peer) (s : Rpc) : Action → Rpc
  | .request method encodes => s.request peer method encodes
  | .unwritten id message => s.unwritten id message
  | .abandonIncomingRequest id => s.abandonIncomingRequest id
  | .fail error => s.fail error
  | .shutdown => s.shutdown

def dispatch (peer : Peer) (s : Rpc) (method : String) (params : Option Json) (reaction : Reaction) : Rpc :=
  let s := reaction.actions.foldl (act peer) (s.record (.dispatched method params))
  match reaction.error with
  | some message => s.fail (.thrown message)
  | none => s

def rememberCompleted (completed : List RpcId) (id : RpcId) : List RpcId :=
  if completed.length < maxCompletedRequestIds then completed ++ [id] else completed.tail ++ [id]

def result (peer : Peer) (method : String) (fields : List (String × Json)) : Except RpcError (Option Json) :=
  match Json.field fields "error" with
  | none => .ok (Json.field fields "result")
  | some error =>
    let code := ((Json.num? (Json.property "code" (some error))).map peer.numberText).getD "unknown"
    .error (.responseInvalid ("Codex app-server rejected " ++ method ++ " (" ++ code ++ ")"))

def handleResponse (peer : Peer) (s : Rpc) (id : RpcId) (fields : List (String × Json)) : Rpc :=
  match s.pending.find? fun request => id = .number request.1 with
  | some (number, method) =>
    ({ s with
        pending := s.pending.filter fun request => request.1 ≠ number
        completed := rememberCompleted s.completed id } : Rpc).settle number
      (.response fields (result peer method fields))
  | none =>
    s.fail (.responseInvalid ("Codex app-server returned a " ++
      (if id ∈ s.completed then "duplicate" else "unknown") ++ " response id"))

def handleFrame (peer : Peer) (s : Rpc) (frame : List UInt8) : Rpc :=
  let s := s.record (.handled frame)
  match peer.readFrame frame with
  | .error error => s.fail error
  | .ok (.notification method params) => s.dispatch peer method params (peer.onNotification s.log method params)
  | .ok (.request id method params) =>
    if id ∈ s.incomingRequestIds then s.fail (.responseInvalid "Duplicate server request id")
    else if !peer.isIncomingMethod method then
      s.fail (.forbiddenMethod ("Unsupported Codex server request: " ++ method))
    else
      ({ s with incomingRequestIds := s.incomingRequestIds ++ [id] } : Rpc).dispatch peer method params
        (peer.onRequest s.log id method params)
  | .ok (.response id fields) => s.handleResponse peer id fields

def tooLarge : RpcError := .frameTooLarge "Codex app-server frame exceeded 1 MiB"

def line (frame : List UInt8) : List UInt8 := if frame.getLast? = some 0x0d then frame.dropLast else frame

lemma length_tail_dropWhile_lt {chunk : List UInt8} (h : chunk ≠ []) :
    (chunk.dropWhile (· ≠ 0x0a)).tail.length < chunk.length := by
  have hpos := List.length_pos_iff.mpr h
  have hle := (List.dropWhile_suffix (l := chunk) (· ≠ 0x0a)).length_le
  rw [List.length_tail]
  omega

def acceptStdout (peer : Peer) (s : Rpc) (chunk : List UInt8) : Rpc :=
  if _hdone : s.fatal = true ∨ chunk = [] then s
  else
    let segment := chunk.takeWhile (· ≠ 0x0a)
    let rest := chunk.dropWhile (· ≠ 0x0a)
    if maxFrameBytes < s.buffer.length + segment.length then s.fail tooLarge
    else if rest = [] then { s with buffer := s.buffer ++ segment }
    else acceptStdout peer (({ s with buffer := [] } : Rpc).handleFrame peer (line (s.buffer ++ segment))) rest.tail
termination_by chunk.length
decreasing_by exact length_tail_dropWhile_lt (not_or.mp _hdone).2

def endStdout (s : Rpc) : Rpc :=
  if s.buffer = [] then s else s.fail (.frameInvalid "Codex app-server ended with an incomplete JSON line")

/-- What happens to the peer. -/
inductive Op where
  | act (action : Action)
  | stdout (chunk : List UInt8)
  | endStdout

def step (peer : Peer) (s : Rpc) : Op → Rpc
  | .act action => s.act peer action
  | .stdout chunk => s.acceptStdout peer chunk
  | .endStdout => s.endStdout

def run (peer : Peer) (ops : List Op) : Rpc := ops.foldl (step peer) {}

/-! ## What holds in every run -/

/-- Why a request was settled. -/
def Caused (s : Rpc) (id : ℕ) : Outcome → Prop
  | .response fields _ => rpcId (Json.field fields "id") = some (.number id)
  | .ended _ => s.fatal = true
  | .unwritten _ => True

structure Inv (s : Rpc) : Prop where
  buffer : s.buffer.length ≤ maxFrameBytes
  pending : ∀ request ∈ s.pending, request.1 < s.nextRequestId ∧ request.1 ∉ s.settledIds
  settled : s.settledIds.Nodup ∧ ∀ id ∈ s.settledIds, id < s.nextRequestId
  caused : ∀ id outcome, .settled id outcome ∈ s.log → s.Caused id outcome
  closed : s.fatal = true → s.pending = []

variable {peer : Peer} {s : Rpc}

lemma settledIds_record (s : Rpc) (event : Event) :
    (s.record event).settledIds = s.settledIds ++ event.settled?.toList := by
  rw [settledIds, record, List.filterMap_append]
  cases event <;> rfl

lemma Inv.record (h : s.Inv) {event : Event} (hevent : event.settled? = none) : (s.record event).Inv := by
  have hids : (s.record event).settledIds = s.settledIds := by
    rw [settledIds_record, hevent]
    exact List.append_nil _
  refine ⟨h.buffer, by rw [hids]; exact h.pending, by rw [hids]; exact h.settled, ?_, h.closed⟩
  intro id outcome hmem
  rcases List.mem_append.mp hmem with hmem | hmem
  · exact h.caused id outcome hmem
  · rw [← List.mem_singleton.mp hmem] at hevent
    exact absurd hevent (by simp [Event.settled?])

lemma Inv.mono (h : s.Inv) {t : Rpc} (hbuffer : t.buffer.length ≤ maxFrameBytes) (hlog : t.log = s.log)
    (hnext : s.nextRequestId ≤ t.nextRequestId) (hfatal : t.fatal = s.fatal)
    (hpending : ∀ request ∈ t.pending, request ∈ s.pending ∨
      s.fatal = false ∧ s.nextRequestId ≤ request.1 ∧ request.1 < t.nextRequestId) : t.Inv := by
  have hids : t.settledIds = s.settledIds := by rw [settledIds, hlog, settledIds]
  refine ⟨hbuffer, fun request hrequest => ?_, ?_, fun id outcome hmem => ?_, fun hclosed => ?_⟩
  · rw [hids]
    rcases hpending request hrequest with hold | ⟨-, hnew, hlt⟩
    · exact ⟨(h.pending request hold).1.trans_le hnext, (h.pending request hold).2⟩
    · exact ⟨hlt, fun hmem => absurd (h.settled.2 _ hmem) (not_lt.mpr hnew)⟩
  · rw [hids]
    exact ⟨h.settled.1, fun id hid => (h.settled.2 id hid).trans_le hnext⟩
  · rw [hlog] at hmem
    have hcaused := h.caused id outcome hmem
    cases outcome with
    | ended => exact hfatal.trans hcaused
    | response => exact hcaused
    | unwritten => trivial
  · rw [hfatal] at hclosed
    refine List.eq_nil_iff_forall_not_mem.mpr fun request hrequest => ?_
    rcases hpending request hrequest with hold | ⟨hopen, -⟩
    · exact absurd hold (by simp [h.closed hclosed])
    · exact Bool.false_ne_true (hopen.symm.trans hclosed)

lemma Inv.settle (h : s.Inv) {id : ℕ} {outcome : Outcome} (hid : id < s.nextRequestId)
    (hpending : ∀ request ∈ s.pending, request.1 ≠ id) (hcaused : s.Caused id outcome) :
    (s.settle id outcome).Inv := by
  unfold Rpc.settle
  split_ifs with hsettled
  · exact h
  · have hids : (s.record (.settled id outcome)).settledIds = s.settledIds ++ [id] := settledIds_record ..
    refine ⟨h.buffer, fun request hrequest => ?_, ?_, fun id' outcome' hmem => ?_, h.closed⟩
    · rw [hids, List.mem_append, List.mem_singleton, not_or]
      exact ⟨(h.pending request hrequest).1, (h.pending request hrequest).2, hpending request hrequest⟩
    · rw [hids]
      refine ⟨List.nodup_append.mpr ⟨h.settled.1, List.pairwise_singleton .., ?_⟩, ?_⟩
      · rintro a ha b hb rfl
        exact hsettled (List.mem_singleton.mp hb ▸ ha)
      · exact List.forall_mem_append.mpr ⟨h.settled.2, List.forall_mem_singleton.mpr hid⟩
    · rcases List.mem_append.mp hmem with hmem | hmem
      · exact h.caused id' outcome' hmem
      · cases List.mem_singleton.mp hmem
        exact hcaused

lemma settle_eq (s : Rpc) (id : ℕ) (outcome : Outcome) : ∃ log, s.settle id outcome = { s with log := log } := by
  unfold settle
  split_ifs
  exacts [⟨s.log, rfl⟩, ⟨_, rfl⟩]

lemma close_eq (s : Rpc) (error : RpcError) : ∃ log, s.close error =
    { s with buffer := [], pending := [], incomingRequestIds := [], fatal := true, log := log } := by
  unfold close
  generalize s.pending = requests
  induction requests using List.reverseRecOn with
  | nil => exact ⟨s.log, rfl⟩
  | append_singleton requests request ih =>
    obtain ⟨log, hlog⟩ := ih
    rw [List.foldl_concat, hlog]
    exact settle_eq ..

lemma Inv.close (h : s.Inv) (error : RpcError) : (s.close error).Inv := by
  have hfold : ∀ (requests : List (ℕ × String)) (t : Rpc), t.Inv → t.pending = [] → t.fatal = true →
      (∀ request ∈ requests, request.1 < t.nextRequestId) →
      (requests.foldl (fun s request => s.settle request.1 (.ended error)) t).Inv := by
    intro requests
    induction requests with
    | nil => exact fun t ht _ _ _ => ht
    | cons request requests ih =>
      intro t ht hpending hfatal hids
      obtain ⟨hid, hids⟩ := List.forall_mem_cons.mp hids
      obtain ⟨log, hlog⟩ := settle_eq t request.1 (.ended error)
      have hnone : ∀ other ∈ t.pending, other.1 ≠ request.1 := by simp [hpending]
      have hsettle : (t.settle request.1 (.ended error)).Inv := ht.settle hid hnone hfatal
      rw [hlog] at hsettle
      rw [List.foldl_cons, hlog]
      exact ih _ hsettle hpending hfatal hids
  refine hfold _ _ ⟨Nat.zero_le _, by simp, h.settled, fun id outcome hmem => ?_, fun _ => rfl⟩ rfl rfl
    fun request hrequest => (h.pending request hrequest).1
  have hcaused := h.caused id outcome hmem
  cases outcome with
  | ended => exact rfl
  | response => exact hcaused
  | unwritten => trivial

lemma Inv.fail (h : s.Inv) (error : RpcError) : (s.fail error).Inv := by
  unfold Rpc.fail
  split_ifs
  · exact h
  · exact (h.close error).record rfl

lemma Inv.settlePending (h : s.Inv) {id : ℕ} {completed : List RpcId} {outcome : Outcome}
    (hid : id ∈ s.pending.map Prod.fst) (hcaused : s.Caused id outcome) :
    (({ s with pending := s.pending.filter fun request => request.1 ≠ id, completed := completed } :
      Rpc).settle id outcome).Inv := by
  obtain ⟨request, hrequest, rfl⟩ := List.mem_map.mp hid
  have hless := h.mono (t := { s with
    pending := s.pending.filter fun other => other.1 ≠ request.1, completed := completed })
    h.buffer rfl le_rfl rfl fun other hother => .inl (List.mem_of_mem_filter hother)
  refine hless.settle (h.pending request hrequest).1 (fun other hother => ?_) ?_
  · simpa using List.of_mem_filter hother
  cases outcome <;> exact hcaused

lemma Inv.act (h : s.Inv) (action : Action) : (s.act peer action).Inv := by
  cases action with
  | request method encodes =>
    change (s.request peer method encodes).Inv
    unfold Rpc.request
    split_ifs with hrefused
    · exact h
    · exact h.mono h.buffer rfl (Nat.le_succ _) rfl fun request hrequest => .inl hrequest
    · rw [Bool.or_eq_true, not_or] at hrefused
      refine h.mono h.buffer rfl (Nat.le_succ _) rfl fun request hrequest => ?_
      refine (List.mem_append.mp hrequest).imp_right fun hnew => ?_
      rw [List.mem_singleton.mp hnew]
      exact ⟨Bool.not_eq_true _ ▸ hrefused.2, le_rfl, Nat.lt_succ_self _⟩
  | unwritten id message =>
    change (s.unwritten id message).Inv
    unfold Rpc.unwritten
    split_ifs with hid
    · exact h.settlePending hid trivial
    · exact h
  | abandonIncomingRequest id => exact h.mono h.buffer rfl le_rfl rfl fun request hrequest => .inl hrequest
  | fail error => exact h.fail error
  | shutdown =>
    change s.shutdown.Inv
    unfold shutdown
    split_ifs
    · exact h
    · exact h.close _

lemma Inv.dispatch (h : s.Inv) (method : String) (params : Option Json) (reaction : Reaction) :
    (s.dispatch peer method params reaction).Inv := by
  have hactions : (reaction.actions.foldl (Rpc.act peer) (s.record (.dispatched method params))).Inv := by
    generalize reaction.actions = actions
    induction actions using List.reverseRecOn with
    | nil => exact h.record rfl
    | append_singleton actions action ih =>
      rw [List.foldl_concat]
      exact ih.act action
  unfold Rpc.dispatch
  split
  · exact hactions.fail _
  · exact hactions

lemma readFrame_response {frame : List UInt8} {id : RpcId} {fields : List (String × Json)}
    (h : peer.readFrame frame = .ok (.response id fields)) : rpcId (Json.field fields "id") = some id := by
  have hmethod : ∀ {fields' method}, peer.readMethod fields' method ≠ .ok (.response id fields) := by
    intro fields' method hread
    unfold Peer.readMethod at hread
    dsimp only at hread
    split at hread
    · cases hread
    · split at hread
      · cases hread
      · split at hread
        · split at hread <;> cases hread
        · split at hread <;> cases hread
      · cases hread
  unfold Peer.readFrame at h
  split_ifs at h
  split at h
  · cases h
  · split_ifs at h
    split at h
    · split_ifs at h
      split at h
      · exact absurd h hmethod
      · unfold readResponse at h
        dsimp only at h
        split_ifs at h
        split at h
        · next hid =>
          cases h
          exact hid
        · cases h
    · cases h

lemma Inv.handleFrame (h : s.Inv) (frame : List UInt8) : (s.handleFrame peer frame).Inv := by
  have hs : (s.record (.handled frame)).Inv := h.record rfl
  unfold Rpc.handleFrame
  dsimp only
  split
  · exact hs.fail _
  · exact hs.dispatch ..
  · next id method params _ =>
    split_ifs
    · exact hs.fail _
    · exact hs.fail _
    · have hadded : ({ s.record (.handled frame) with incomingRequestIds := s.incomingRequestIds ++ [id] } :
          Rpc).Inv := hs.mono hs.buffer rfl le_rfl rfl fun request hrequest => .inl hrequest
      exact hadded.dispatch ..
  · next id fields hread =>
    unfold handleResponse
    split
    · next number method hfind =>
      have hid : id = .number number := by simpa using List.find?_some hfind
      refine hs.settlePending (List.mem_map_of_mem (List.mem_of_find?_eq_some hfind)) ?_
      exact (readFrame_response hread).trans (congrArg some hid)
    · exact hs.fail _

/-! ## Chunks -/

def acceptByte (peer : Peer) (s : Rpc) (byte : UInt8) : Rpc :=
  if s.fatal then s
  else if byte = 0x0a then ({ s with buffer := [] } : Rpc).handleFrame peer (line s.buffer)
  else if maxFrameBytes < s.buffer.length + 1 then s.fail tooLarge
  else { s with buffer := s.buffer ++ [byte] }

lemma foldl_acceptByte_of_fatal (hfatal : s.fatal = true) (bytes : List UInt8) :
    bytes.foldl (acceptByte peer) s = s := by
  induction bytes with
  | nil => rfl
  | cons byte bytes ih => rw [List.foldl_cons, acceptByte, if_pos hfatal, ih]

lemma fatal_fail (s : Rpc) (error : RpcError) : (s.fail error).fatal = true := by
  unfold fail
  split_ifs with hfatal
  · exact hfatal
  · obtain ⟨log, hlog⟩ := close_eq s error
    rw [hlog]
    rfl

lemma fail_buffer (hopen : s.fatal = false) (buffer : List UInt8) (error : RpcError) :
    ({ s with buffer := buffer } : Rpc).fail error = s.fail error := by
  unfold fail
  rw [if_neg (by simp [hopen]), if_neg (by simp [hopen])]
  rfl

lemma foldl_acceptByte_segment (hopen : s.fatal = false) (buffer : List UInt8) {segment : List UInt8}
    (hbuffer : buffer.length ≤ maxFrameBytes) (hsegment : ∀ byte ∈ segment, byte ≠ 0x0a) :
    segment.foldl (acceptByte peer) { s with buffer := buffer } =
      if maxFrameBytes < buffer.length + segment.length then s.fail tooLarge
      else { s with buffer := buffer ++ segment } := by
  induction segment generalizing buffer with
  | nil =>
    rw [List.length_nil, Nat.add_zero, if_neg (not_lt.mpr hbuffer), List.append_nil]
    rfl
  | cons byte segment ih =>
    obtain ⟨hbyte, hsegment⟩ := List.forall_mem_cons.mp hsegment
    rw [List.foldl_cons, acceptByte, if_neg (by simp [hopen]), if_neg hbyte, fail_buffer hopen, List.length_cons]
    by_cases hfull : maxFrameBytes < buffer.length + 1
    · rw [if_pos hfull, if_pos (by omega), foldl_acceptByte_of_fatal (fatal_fail ..)]
    · have hlength : (buffer ++ [byte]).length = buffer.length + 1 := List.length_append
      have hnext := ih (buffer ++ [byte]) (hlength ▸ not_lt.mp hfull) hsegment
      rw [hlength, List.append_assoc, Nat.add_assoc, Nat.add_comm 1] at hnext
      rw [if_neg hfull]
      exact hnext

lemma Inv.acceptByte (h : s.Inv) (byte : UInt8) : (s.acceptByte peer byte).Inv := by
  unfold Rpc.acceptByte
  split_ifs with hfatal hline hfull
  · exact h
  · have hempty : ({ s with buffer := [] } : Rpc).Inv :=
      h.mono (Nat.zero_le _) rfl le_rfl rfl fun request hrequest => .inl hrequest
    exact hempty.handleFrame _
  · exact h.fail _
  · exact h.mono (by rw [List.length_append]; exact not_lt.mp hfull) rfl le_rfl rfl
      fun request hrequest => .inl hrequest

lemma acceptStdout_eq_foldl (h : s.Inv) (chunk : List UInt8) :
    s.acceptStdout peer chunk = chunk.foldl (acceptByte peer) s := by
  induction hlength : chunk.length using Nat.strong_induction_on generalizing s chunk with
  | h n ih =>
    subst hlength
    unfold acceptStdout
    by_cases hdone : s.fatal = true ∨ chunk = []
    · rw [dif_pos hdone]
      rcases hdone with hfatal | rfl
      · exact (foldl_acceptByte_of_fatal hfatal chunk).symm
      · rfl
    · rw [dif_neg hdone]
      obtain ⟨hfatal, hne⟩ := not_or.mp hdone
      have hopen : s.fatal = false := by simpa using hfatal
      dsimp only
      have hbytes : ∀ byte ∈ chunk.takeWhile (· ≠ 0x0a), byte ≠ 0x0a := fun byte hbyte => by
        simpa using List.mem_takeWhile_imp hbyte
      have hfold : chunk.foldl (acceptByte peer) s = (chunk.dropWhile (· ≠ 0x0a)).foldl (acceptByte peer)
          ((chunk.takeWhile (· ≠ 0x0a)).foldl (acceptByte peer) s) := by
        rw [← List.foldl_append, List.takeWhile_append_dropWhile]
      rw [hfold, foldl_acceptByte_segment hopen _ h.buffer hbytes]
      split_ifs with hfull hnone
      · exact (foldl_acceptByte_of_fatal (fatal_fail ..) _).symm
      · rw [hnone]
        rfl
      · -- the line ends here
        rcases hrest : chunk.dropWhile (· ≠ 0x0a) with _ | ⟨byte, rest⟩
        · exact absurd hrest hnone
        · have hnewline : byte = 0x0a := by
            have hhead := List.head?_dropWhile_not (· ≠ (0x0a : UInt8)) chunk
            rw [hrest] at hhead
            simpa using hhead
          have hframe : (({ s with buffer := [] } : Rpc).handleFrame peer
              (line (s.buffer ++ chunk.takeWhile (· ≠ 0x0a)))).Inv :=
            (h.mono (t := { s with buffer := [] }) (Nat.zero_le _) rfl le_rfl rfl
              fun request hrequest => .inl hrequest).handleFrame _
          have hless := length_tail_dropWhile_lt hne
          rw [hrest] at hless ⊢
          rw [List.tail_cons, ih _ hless hframe rest rfl, List.foldl_cons, acceptByte,
            if_neg (by simp [hopen]), if_pos hnewline]

/-! ## Runs -/

lemma Inv.step (h : s.Inv) (op : Op) : (s.step peer op).Inv := by
  cases op with
  | act action => exact h.act action
  | stdout chunk =>
    change (s.acceptStdout peer chunk).Inv
    rw [acceptStdout_eq_foldl h]
    induction chunk using List.reverseRecOn with
    | nil => exact h
    | append_singleton chunk byte ih =>
      rw [List.foldl_concat]
      exact ih.acceptByte byte
  | endStdout =>
    change s.endStdout.Inv
    unfold endStdout
    split_ifs
    · exact h
    · exact h.fail _

lemma run_append (ops rest : List Op) : run peer (ops ++ rest) = rest.foldl (step peer) (run peer ops) :=
  List.foldl_append

lemma inv_run (peer : Peer) (ops : List Op) : (run peer ops).Inv := by
  induction ops using List.reverseRecOn with
  | nil =>
    refine ⟨Nat.zero_le _, fun _ h => ?_, ⟨List.nodup_nil, fun _ h => ?_⟩, fun _ _ h => ?_, fun _ => rfl⟩
    all_goals exact absurd h List.not_mem_nil
  | append_singleton ops op ih =>
    rw [run_append]
    exact ih.step op

lemma foldl_stdout (h : s.Inv) (chunks : List (List UInt8)) :
    (chunks.map Op.stdout).foldl (step peer) s = chunks.flatten.foldl (acceptByte peer) s := by
  induction chunks generalizing s with
  | nil => rfl
  | cons chunk chunks ih =>
    have hstep : s.step peer (.stdout chunk) = chunk.foldl (acceptByte peer) s := acceptStdout_eq_foldl h chunk
    rw [List.map_cons, List.foldl_cons, ih (h.step _), hstep, List.flatten_cons, List.foldl_append]

lemma step_of_fatal (h : s.Inv) (hfatal : s.fatal = true) (op : Op) :
    ∃ ids, s.step peer op = { s with incomingRequestIds := ids } := by
  have hfail : ∀ error, s.fail error = s := fun error => if_pos hfatal
  cases op with
  | act action =>
    cases action with
    | request => exact ⟨_, if_pos (by simp [hfatal])⟩
    | unwritten => exact ⟨_, if_neg (by simp [h.closed hfatal])⟩
    | abandonIncomingRequest => exact ⟨_, rfl⟩
    | fail error => exact ⟨_, hfail error⟩
    | shutdown => exact ⟨_, if_pos hfatal⟩
  | stdout chunk => exact ⟨_, (acceptStdout_eq_foldl h chunk).trans (foldl_acceptByte_of_fatal hfatal chunk)⟩
  | endStdout =>
    refine ⟨s.incomingRequestIds, ?_⟩
    change s.endStdout = s
    unfold endStdout
    split_ifs
    · rfl
    · exact hfail _

lemma run_of_fatal {ops : List Op} (hfatal : (run peer ops).fatal = true) (rest : List Op) :
    ∃ ids, run peer (ops ++ rest) = { run peer ops with incomingRequestIds := ids } := by
  induction rest using List.reverseRecOn with
  | nil => exact ⟨_, by rw [List.append_nil]⟩
  | append_singleton rest op ih =>
    obtain ⟨ids, hids⟩ := ih
    have hinv := inv_run peer (ops ++ rest)
    have hstep := @step_of_fatal peer _ hinv (by rw [hids]; exact hfatal) op
    rw [hids] at hstep
    rw [← List.append_assoc, run_append _ [op], hids]
    exact hstep

/-- **What the peer does with its output does not depend on the chunks, every request is settled at
most once, and nothing happens after the end.**  A request is settled by the response with its id,
by the end of the peer, or because it could not be written. -/
theorem peer_spec (peer : Peer) (ops : List Op) :
    (∀ (chunks chunks' : List (List UInt8)) (rest : List Op), chunks.flatten = chunks'.flatten →
        run peer (ops ++ chunks.map .stdout ++ rest) = run peer (ops ++ chunks'.map .stdout ++ rest)) ∧
      (run peer ops).settledIds.Nodup ∧
      (∀ id outcome, .settled id outcome ∈ (run peer ops).log → (run peer ops).Caused id outcome) ∧
      (∀ request ∈ (run peer ops).pending, request.1 ∉ (run peer ops).settledIds) ∧
      ((run peer ops).fatal = true → ∀ rest, (run peer (ops ++ rest)).pending = [] ∧
        (run peer (ops ++ rest)).log = (run peer ops).log) := by
  have hinv := inv_run peer ops
  refine ⟨fun chunks chunks' rest hflatten => ?_, hinv.settled.1, hinv.caused,
    fun request hrequest => (hinv.pending request hrequest).2, fun hfatal rest => ?_⟩
  · have hchunks : (run peer (ops ++ chunks.map .stdout)) = run peer (ops ++ chunks'.map .stdout) := by
      rw [run_append, run_append, foldl_stdout hinv, foldl_stdout hinv, hflatten]
    rw [run_append _ rest, run_append _ rest, hchunks]
  · obtain ⟨ids, hids⟩ := run_of_fatal hfatal rest
    rw [hids]
    exact ⟨hinv.closed hfatal, rfl⟩

/-- A request that cannot be written is settled without a response and without an end. -/
theorem not_settled_by_response_or_end : ¬ ∀ (peer : Peer) (ops : List Op) (id : ℕ) (outcome : Outcome),
    .settled id outcome ∈ (run peer ops).log →
      (∃ fields result, outcome = .response fields result) ∨ (run peer ops).fatal = true := by
  intro h
  let peer : Peer :=
    { parse := fun _ => none, inBounds := fun _ => true, numberText := fun _ => ""
      isOutgoingMethod := fun method => method = "initialize", isIncomingMethod := fun _ => false
      isNotificationMethod := fun _ => false, onNotification := fun _ _ _ => ⟨[], none⟩
      onRequest := fun _ _ _ _ => ⟨[], none⟩ }
  have hcause := h peer [.act (.request "initialize" true), .act (.unwritten 1 "EPIPE")] 1 (.unwritten "EPIPE")
    (List.mem_singleton.mpr rfl)
  rcases hcause with ⟨fields, result, houtcome⟩ | hfatal
  · cases houtcome
  · exact Bool.false_ne_true hfatal

end Rpc

end VacancyRadar.Codex
