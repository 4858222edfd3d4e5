/-
This file models the relay between the clients and the data server and settles when replies
reach the client that asked.

For every client the relay forks two processes: a child that reads the client's requests and
writes its replies, and a forwarder that talks to the data server. All children post to one
queue, all forwarders share one connection, and all children read replies from one pipe. Nothing
says whose reply it is. No reply is lost or read twice in any run, but a child that reads the
pipe while another child waits may take the other's reply. If no child ever does, every reply
reaches the client that asked.

The data server is a parameter that answers the frames of its connection in order. Frames and
replies carry the client and the number of the request they belong to, which the relay does not
look at.
-/

import OnlineStore.CString
import Mathlib.Logic.Function.Basic
import Mathlib.Data.List.Nodup

namespace OnlineStore

open CString

/-! ### The processes -/

/-- A request as it travels: the client, how many requests it made before, and the text. -/
structure Frame where
  client : Nat
  number : Nat
  text : Text
  deriving DecidableEq

/-- An answer of the data server, and the request that it answers. -/
structure Reply where
  request : Frame
  text : Text
  deriving DecidableEq

/-- The child of a client. It exits when the queue is not there yet. -/
inductive Child where
  | absent
  | starting
  | exited
  | reading
  | sending (request : Frame)
  | waiting (request : Frame)
  | answering (request : Frame) (reply : Reply)
  deriving DecidableEq

/-- The forwarder of a client. -/
inductive Forwarder where
  | absent
  | starting
  | receiving
  | holding (request : Frame)
  | awaiting
  | replying (reply : Reply)
  deriving DecidableEq

/-- The request that a child has posted and waits to see answered. -/
def Child.awaited : Child → Option Frame
  | .waiting request => some request
  | _ => none

/-- The reply that a child has read. -/
def Child.reply : Child → Option Reply
  | .answering _ reply => some reply
  | _ => none

/-- The request that a forwarder has taken from the queue and not written yet. -/
def Forwarder.request : Forwarder → Option Frame
  | .holding request => some request
  | _ => none

/-- The reply that a forwarder has read. -/
def Forwarder.reply : Forwarder → Option Reply
  | .replying reply => some reply
  | _ => none

/-- A reply that a child has written to its client, and the request the client was waiting for. -/
structure Delivery where
  client : Nat
  request : Frame
  reply : Reply
  deriving DecidableEq

/-- The relay and the data server. The last four fields record what has happened. -/
structure Relay (ServerState : Type) where
  accepted : Nat
  forwarding : Nat
  queueExists : Bool
  children : Nat → Child
  forwarders : Nat → Forwarder
  queue : List Frame
  toServer : List Frame
  fromServer : List Reply
  pipe : List Reply
  server : ServerState
  requests : Nat → Nat
  posted : List Frame
  answered : List Reply
  delivered : List Delivery

/-- One step of one process. -/
inductive RelayStep where
  | accept
  | fork
  | childOpens (client : Nat)
  | forwarderOpens (client : Nat)
  | childReads (client : Nat) (text : Text)
  | mqSend (client : Nat)
  | mqReceive (client : Nat)
  | writeServer (client : Nat)
  | serve
  | readServer (client : Nat)
  | writePipe (client : Nat)
  | readPipe (client : Nat)
  | writeClient (client : Nat)

/-- The most messages the queue holds. -/
def MAX_MESSAGES : Nat := 10

/-- The most characters of a message of the queue. -/
def MAX_MSG_SIZE : Nat := 1024

namespace Relay

variable {ServerState : Type} (respond : ServerState → Text → Text × ServerState)

/-- The relay before the first connection. A queue may be left of an earlier run, but no message
in it. -/
def start (server : ServerState) (queueExists : Bool) : Relay ServerState where
  accepted := 0
  forwarding := 0
  queueExists := queueExists
  children _ := .absent
  forwarders _ := .absent
  queue := []
  toServer := []
  fromServer := []
  pipe := []
  server := server
  requests _ := 0
  posted := []
  answered := []
  delivered := []

def setChild (relay : Relay ServerState) (client : Nat) (child : Child) : Relay ServerState :=
  { relay with children := Function.update relay.children client child }

def setForwarder (relay : Relay ServerState) (client : Nat) (forwarder : Forwarder) :
    Relay ServerState :=
  { relay with forwarders := Function.update relay.forwarders client forwarder }

/-- The relay after a step, if the process can take it. -/
def step (relay : Relay ServerState) : RelayStep → Option (Relay ServerState)
  | .accept =>
    if relay.forwarding = relay.accepted then
      some { relay.setChild relay.accepted .starting with accepted := relay.accepted + 1 }
    else none
  | .fork =>
    if relay.forwarding < relay.accepted then
      some { relay.setForwarder relay.forwarding .starting with
        forwarding := relay.forwarding + 1 }
    else none
  | .childOpens client =>
    match relay.children client with
    | .starting => some (relay.setChild client (if relay.queueExists then .reading else .exited))
    | _ => none
  | .forwarderOpens client =>
    match relay.forwarders client with
    | .starting => some { relay.setForwarder client .receiving with queueExists := true }
    | _ => none
  | .childReads client text =>
    match relay.children client with
    | .reading => some { relay.setChild client (.sending ⟨client, relay.requests client, text⟩) with
        requests := Function.update relay.requests client (relay.requests client + 1) }
    | _ => none
  | .mqSend client =>
    match relay.children client with
    | .sending request =>
      if request.text.length ≤ MAX_MSG_SIZE then
        if relay.queue.length < MAX_MESSAGES then
          some { relay.setChild client (.waiting request) with
            queue := relay.queue ++ [request], posted := relay.posted ++ [request] }
        else none
      -- `mq_send` fails. The child prints that, and waits for a reply all the same.
      else some (relay.setChild client (.waiting request))
    | _ => none
  | .mqReceive client =>
    match relay.forwarders client, relay.queue with
    | .receiving, request :: queue =>
      some { relay.setForwarder client (.holding request) with queue := queue }
    | _, _ => none
  | .writeServer client =>
    match relay.forwarders client with
    | .holding request => some { relay.setForwarder client .awaiting with
        toServer := relay.toServer ++ [request] }
    | _ => none
  | .serve =>
    match relay.toServer with
    | request :: toServer =>
      let (text, server) := respond relay.server request.text
      some { relay with
        toServer := toServer
        server := server
        fromServer := relay.fromServer ++ [⟨request, text⟩]
        answered := relay.answered ++ [⟨request, text⟩] }
    | _ => none
  | .readServer client =>
    match relay.forwarders client, relay.fromServer with
    | .awaiting, reply :: fromServer =>
      some { relay.setForwarder client (.replying reply) with fromServer := fromServer }
    | _, _ => none
  | .writePipe client =>
    match relay.forwarders client with
    | .replying reply => some { relay.setForwarder client .receiving with
        pipe := relay.pipe ++ [reply] }
    | _ => none
  | .readPipe client =>
    match relay.children client, relay.pipe with
    | .waiting request, reply :: pipe =>
      some { relay.setChild client (.answering request reply) with pipe := pipe }
    | _, _ => none
  | .writeClient client =>
    match relay.children client with
    | .answering request reply => some { relay.setChild client .reading with
        delivered := relay.delivered ++ [⟨client, request, reply⟩] }
    | _ => none

/-- Steps of any processes in any order, each one possible where it is taken. -/
def run : List RelayStep → Relay ServerState → Option (Relay ServerState)
  | [], relay => some relay
  | action :: actions, relay => (relay.step respond action).bind (run actions)

/-! ### What is claimed of the relay -/

/-- The requests that the forwarders hold. -/
def held (relay : Relay ServerState) : List Frame :=
  (List.range relay.forwarding).filterMap fun client => (relay.forwarders client).request

/-- The replies that the forwarders hold. -/
def fetched (relay : Relay ServerState) : List Reply :=
  (List.range relay.forwarding).filterMap fun client => (relay.forwarders client).reply

/-- The replies that the children hold. -/
def taken (relay : Relay ServerState) : List Reply :=
  (List.range relay.accepted).filterMap fun client => (relay.children client).reply

/-- The requests between the clients and the data server. -/
def unanswered (relay : Relay ServerState) : List Frame :=
  relay.queue ++ relay.held ++ relay.toServer

/-- The replies between the data server and the clients. -/
def inTransit (relay : Relay ServerState) : List Reply :=
  relay.fromServer ++ relay.fetched ++ relay.pipe ++ relay.taken

/-- Every reply that was delivered answers the request its client was waiting for, no request is
answered twice, and the answers of the data server are delivered or on their way. -/
structure Routed (relay : Relay ServerState) : Prop where
  own : ∀ delivery ∈ relay.delivered,
    delivery.reply.request = delivery.request ∧ delivery.request.client = delivery.client
  once : (relay.delivered.map fun delivery => delivery.reply.request).Nodup
  lossless : relay.answered.Perm (relay.delivered.map Delivery.reply ++ relay.inTransit)

/-- A child reads the pipe only while no other child waits for a reply. -/
def Unrivalled (relay : Relay ServerState) : RelayStep → Prop
  | .readPipe client =>
    ∀ other < relay.accepted, other ≠ client → (relay.children other).awaited = none
  | _ => True

instance (relay : Relay ServerState) (action : RelayStep) : Decidable (relay.Unrivalled action) := by
  unfold Unrivalled
  split <;> infer_instance

/-- A run in which no child reads the pipe while another waits. -/
def RunUnrivalled : List RelayStep → Relay ServerState → Prop
  | [], _ => True
  | action :: actions, relay =>
    relay.Unrivalled action ∧ ∀ next ∈ relay.step respond action, RunUnrivalled actions next

instance decidableRunUnrivalled : (actions : List RelayStep) → (relay : Relay ServerState) →
    Decidable (relay.RunUnrivalled respond actions)
  | [], _ => isTrue trivial
  | action :: actions, relay =>
    have : DecidablePred (RunUnrivalled respond actions) := decidableRunUnrivalled actions
    inferInstanceAs (Decidable (relay.Unrivalled action ∧
      ∀ next ∈ relay.step respond action, next.RunUnrivalled respond actions))

section Updates

variable {relay : Relay ServerState} {client other : Nat}

@[simp] theorem setChild_self (child : Child) :
    (relay.setChild client child).children client = child :=
  Function.update_self ..

theorem setChild_of_ne (child : Child) (different : other ≠ client) :
    (relay.setChild client child).children other = relay.children other :=
  Function.update_of_ne different ..

@[simp] theorem setForwarder_self (forwarder : Forwarder) :
    (relay.setForwarder client forwarder).forwarders client = forwarder :=
  Function.update_self ..

theorem setForwarder_of_ne (forwarder : Forwarder) (different : other ≠ client) :
    (relay.setForwarder client forwarder).forwarders other = relay.forwarders other :=
  Function.update_of_ne different ..

/-- What a family of processes holds changes at the updated process only. -/
theorem count_filterMap_update {Process Item : Type} [DecidableEq Item] {size : Nat}
    (holds : Process → Option Item) (processes : Nat → Process) (process : Process)
    (bound : client < size) (item : Item) :
    ((List.range size).filterMap fun index =>
        holds (Function.update processes client process index)).count item +
      (holds (processes client)).toList.count item =
    ((List.range size).filterMap fun index => holds (processes index)).count item +
      (holds process).toList.count item := by
  induction size with
  | zero => exact absurd bound (Nat.not_lt_zero client)
  | succ size inductionHypothesis =>
    rw [List.range_succ, List.filterMap_append, List.filterMap_append, List.count_append,
      List.count_append]
    rcases Nat.lt_succ_iff_lt_or_eq.mp bound with inside | rfl
    · have different : size ≠ client := Nat.ne_of_gt inside
      have rest := inductionHypothesis inside
      simp only [List.filterMap_cons, List.filterMap_nil, Function.update_of_ne different]
      omega
    · have earlier : ((List.range client).filterMap fun index =>
          holds (Function.update processes client process index)) =
          (List.range client).filterMap fun index => holds (processes index) :=
        List.filterMap_congr fun index member => by
          rw [Function.update_of_ne (Nat.ne_of_lt (List.mem_range.mp member))]
      rw [earlier]
      simp only [List.filterMap_cons, List.filterMap_nil, Function.update_self]
      cases holds process <;> cases holds (processes client) <;>
        simp only [Option.toList_none, Option.toList_some, List.count_nil] <;> omega

/-- A process beyond the others adds nothing as long as it holds nothing. -/
theorem filterMap_update_succ {Process Item : Type} (size : Nat) (holds : Process → Option Item)
    (processes : Nat → Process) (process : Process) (nothing : holds process = none) :
    ((List.range (size + 1)).filterMap fun index =>
        holds (Function.update processes size process index)) =
      (List.range size).filterMap fun index => holds (processes index) := by
  rw [List.range_succ, List.filterMap_append, List.filterMap_cons, Function.update_self, nothing]
  refine (List.append_nil _).trans (List.filterMap_congr fun index member => ?_)
  rw [Function.update_of_ne (Nat.ne_of_lt (List.mem_range.mp member))]

end Updates

/-- The steps, each with what made it possible and the state that it leads to. -/
inductive Steps (relay : Relay ServerState) : RelayStep → Relay ServerState → Prop
  | accept (turn : relay.forwarding = relay.accepted) :
    Steps relay .accept
      { relay.setChild relay.accepted .starting with accepted := relay.accepted + 1 }
  | fork (turn : relay.forwarding < relay.accepted) :
    Steps relay .fork
      { relay.setForwarder relay.forwarding .starting with forwarding := relay.forwarding + 1 }
  | childOpens {client : Nat} (starts : relay.children client = .starting) :
    Steps relay (.childOpens client)
      (relay.setChild client (if relay.queueExists then .reading else .exited))
  | forwarderOpens {client : Nat} (starts : relay.forwarders client = .starting) :
    Steps relay (.forwarderOpens client)
      { relay.setForwarder client .receiving with queueExists := true }
  | childReads {client : Nat} {text : Text} (reads : relay.children client = .reading) :
    Steps relay (.childReads client text)
      { relay.setChild client (.sending ⟨client, relay.requests client, text⟩) with
        requests := Function.update relay.requests client (relay.requests client + 1) }
  | mqSend {client : Nat} {request : Frame} (sends : relay.children client = .sending request)
    (fits : request.text.length ≤ MAX_MSG_SIZE) (room : relay.queue.length < MAX_MESSAGES) :
    Steps relay (.mqSend client)
      { relay.setChild client (.waiting request) with
        queue := relay.queue ++ [request], posted := relay.posted ++ [request] }
  | mqSendFails {client : Nat} {request : Frame} (sends : relay.children client = .sending request)
    (long : ¬request.text.length ≤ MAX_MSG_SIZE) :
    Steps relay (.mqSend client) (relay.setChild client (.waiting request))
  | mqReceive {client : Nat} {request : Frame} {queue : List Frame}
    (receives : relay.forwarders client = .receiving) (queued : relay.queue = request :: queue) :
    Steps relay (.mqReceive client)
      { relay.setForwarder client (.holding request) with queue := queue }
  | writeServer {client : Nat} {request : Frame}
    (holds : relay.forwarders client = .holding request) :
    Steps relay (.writeServer client)
      { relay.setForwarder client .awaiting with toServer := relay.toServer ++ [request] }
  | serve {request : Frame} {toServer : List Frame} (sent : relay.toServer = request :: toServer) :
    Steps relay .serve
      { relay with
        toServer := toServer
        server := (respond relay.server request.text).2
        fromServer := relay.fromServer ++ [⟨request, (respond relay.server request.text).1⟩]
        answered := relay.answered ++ [⟨request, (respond relay.server request.text).1⟩] }
  | readServer {client : Nat} {reply : Reply} {fromServer : List Reply}
    (awaits : relay.forwarders client = .awaiting)
    (arrived : relay.fromServer = reply :: fromServer) :
    Steps relay (.readServer client)
      { relay.setForwarder client (.replying reply) with fromServer := fromServer }
  | writePipe {client : Nat} {reply : Reply}
    (replies : relay.forwarders client = .replying reply) :
    Steps relay (.writePipe client)
      { relay.setForwarder client .receiving with pipe := relay.pipe ++ [reply] }
  | readPipe {client : Nat} {request : Frame} {reply : Reply} {pipe : List Reply}
    (waits : relay.children client = .waiting request) (piped : relay.pipe = reply :: pipe) :
    Steps relay (.readPipe client)
      { relay.setChild client (.answering request reply) with pipe := pipe }
  | writeClient {client : Nat} {request : Frame} {reply : Reply}
    (answers : relay.children client = .answering request reply) :
    Steps relay (.writeClient client)
      { relay.setChild client .reading with
        delivered := relay.delivered ++ [⟨client, request, reply⟩] }

variable {respond} {relay next : Relay ServerState} {action : RelayStep}

theorem steps_of_step (stepped : relay.step respond action = some next) :
    relay.Steps respond action next := by
  cases action <;> simp only [step] at stepped <;> split at stepped <;>
    first
      | (injection stepped with stepped; subst stepped; constructor <;> assumption)
      | (split at stepped <;> (try split at stepped) <;> cases stepped <;> constructor <;>
          assumption)
      | cases stepped

/-! ### What holds in every run -/

/-- Only accepted clients have processes, and a request carries its client and its number. -/
structure Numbered (relay : Relay ServerState) : Prop where
  children : ∀ client, relay.children client ≠ .absent → client < relay.accepted
  forwarders : ∀ client, relay.forwarders client ≠ .absent → client < relay.forwarding
  sending : ∀ client request, relay.children client = .sending request →
    request.client = client ∧ request.number < relay.requests client ∧
      ∀ other ∈ relay.posted, other.client = client → other.number < request.number
  posted : ∀ request ∈ relay.posted, request.number < relay.requests request.client
  distinct : relay.posted.Nodup

theorem numbered_start (server : ServerState) (queueExists : Bool) :
    (start server queueExists).Numbered where
  children client present := absurd rfl present
  forwarders client present := absurd rfl present
  sending client request sends := by cases sends
  posted request member := by cases member
  distinct := .nil

theorem Numbered.child_lt (numbered : relay.Numbered) {client : Nat} {child : Child}
    (equal : relay.children client = child) (present : child ≠ .absent) :
    client < relay.accepted :=
  numbered.children client (equal ▸ present)

theorem Numbered.forwarder_lt (numbered : relay.Numbered) {client : Nat} {forwarder : Forwarder}
    (equal : relay.forwarders client = forwarder) (present : forwarder ≠ .absent) :
    client < relay.forwarding :=
  numbered.forwarders client (equal ▸ present)

/-- A child that was there is set to a state that sends nothing. -/
theorem Numbered.setChild (numbered : relay.Numbered) {client : Nat} (child : Child)
    (bound : client < relay.accepted) (silent : ∀ request, child ≠ .sending request) :
    (relay.setChild client child).Numbered where
  children other present := by
    by_cases same : other = client
    · exact same ▸ bound
    · exact numbered.children other (setChild_of_ne child same ▸ present)
  forwarders := numbered.forwarders
  sending other request sends := by
    by_cases same : other = client
    · subst same
      rw [setChild_self] at sends
      exact absurd sends (silent request)
    · exact numbered.sending other request (setChild_of_ne child same ▸ sends)
  posted := numbered.posted
  distinct := numbered.distinct

theorem Numbered.setForwarder (numbered : relay.Numbered) {client : Nat} {forwarder : Forwarder}
    (bound : client < relay.forwarding) : (relay.setForwarder client forwarder).Numbered where
  children := numbered.children
  forwarders other present := by
    by_cases same : other = client
    · exact same ▸ bound
    · exact numbered.forwarders other (setForwarder_of_ne forwarder same ▸ present)
  sending := numbered.sending
  posted := numbered.posted
  distinct := numbered.distinct

/-- The queue, the connection and the pipe do not matter. -/
theorem Numbered.of_processes (numbered : relay.Numbered) (accepted : relay.accepted = next.accepted)
    (forwarding : relay.forwarding = next.forwarding) (children : relay.children = next.children)
    (forwarders : relay.forwarders = next.forwarders) (requests : relay.requests = next.requests)
    (posted : relay.posted = next.posted) : next.Numbered := by
  cases next
  subst accepted forwarding children forwarders requests posted
  exact ⟨numbered.children, numbered.forwarders, numbered.sending, numbered.posted,
    numbered.distinct⟩

/-- The child of a new client and its forwarder are there from now on. -/
theorem Numbered.accept (numbered : relay.Numbered) :
    Numbered { relay.setChild relay.accepted .starting with accepted := relay.accepted + 1 } where
  children other present := by
    by_cases same : other = relay.accepted
    · exact same ▸ Nat.lt_succ_self _
    · exact Nat.lt_succ_of_lt (numbered.children other (setChild_of_ne .starting same ▸ present))
  forwarders := numbered.forwarders
  sending other request sends := by
    by_cases same : other = relay.accepted
    · subst same
      exact absurd ((setChild_self .starting).symm.trans sends) nofun
    · exact numbered.sending other request (setChild_of_ne .starting same ▸ sends)
  posted := numbered.posted
  distinct := numbered.distinct

theorem Numbered.fork (numbered : relay.Numbered) :
    Numbered { relay.setForwarder relay.forwarding .starting with
      forwarding := relay.forwarding + 1 } where
  children := numbered.children
  forwarders other present := by
    by_cases same : other = relay.forwarding
    · exact same ▸ Nat.lt_succ_self _
    · exact Nat.lt_succ_of_lt
        (numbered.forwarders other (setForwarder_of_ne .starting same ▸ present))
  sending := numbered.sending
  posted := numbered.posted
  distinct := numbered.distinct

/-- A child numbers the request that it reads. -/
theorem Numbered.childReads (numbered : relay.Numbered) {client : Nat} {text : Text}
    (bound : client < relay.accepted) :
    Numbered { relay.setChild client (.sending ⟨client, relay.requests client, text⟩) with
      requests := Function.update relay.requests client (relay.requests client + 1) } where
  children other present := by
    by_cases same : other = client
    · exact same ▸ bound
    · exact numbered.children other (setChild_of_ne _ same ▸ present)
  forwarders := numbered.forwarders
  sending other request sends := by
    by_cases same : other = client
    · subst same
      cases (setChild_self _).symm.trans sends
      refine ⟨rfl, ?_, fun earlier member own => own ▸ numbered.posted earlier member⟩
      exact (Nat.lt_succ_self _).trans_eq (Function.update_self other _ relay.requests).symm
    · obtain ⟨own, fresh, later⟩ :=
        numbered.sending other request (setChild_of_ne _ same ▸ sends)
      exact ⟨own, fresh.trans_eq (Function.update_of_ne same ..).symm, later⟩
  posted request member := by
    have earlier := numbered.posted request member
    by_cases same : request.client = client
    · rw [same] at earlier ⊢
      exact (Nat.lt_succ_of_lt earlier).trans_eq
        (Function.update_self client _ relay.requests).symm
    · exact earlier.trans_eq (Function.update_of_ne same ..).symm
  distinct := numbered.distinct

/-- A request that is posted was not posted before. -/
theorem Numbered.mqSend (numbered : relay.Numbered) {client : Nat} {request : Frame}
    (sends : relay.children client = .sending request) :
    Numbered { relay.setChild client (.waiting request) with
      queue := relay.queue ++ [request], posted := relay.posted ++ [request] } := by
  obtain ⟨own, fresh, later⟩ := numbered.sending client request sends
  have kept := numbered.setChild (.waiting request) (numbered.child_lt sends nofun) nofun
  refine ⟨kept.children, kept.forwarders, ?_, ?_, ?_⟩
  · intro other pending stillSends
    by_cases same : other = client
    · subst same
      exact absurd ((setChild_self _).symm.trans stillSends) nofun
    · obtain ⟨ownOther, bound, order⟩ := kept.sending other pending stillSends
      refine ⟨ownOther, bound, fun earlier member equal => ?_⟩
      rcases List.mem_append.mp member with before | last
      · exact order earlier before equal
      · rw [List.mem_singleton.mp last, own] at equal
        exact absurd equal.symm same
  · intro earlier member
    rcases List.mem_append.mp member with before | last
    · exact numbered.posted earlier before
    · rw [List.mem_singleton.mp last, own]
      exact fresh
  · refine numbered.distinct.append (List.nodup_singleton request) ?_
    intro earlier before last
    have same := List.mem_singleton.mp last
    subst same
    exact Nat.lt_irrefl _ (later earlier before own)

theorem Numbered.step (numbered : relay.Numbered)
    (stepped : relay.step respond action = some next) : next.Numbered := by
  cases steps_of_step stepped with
  | accept turn => exact numbered.accept
  | fork turn => exact numbered.fork
  | childOpens starts =>
    exact numbered.setChild _ (numbered.child_lt starts nofun) (by split <;> nofun)
  | forwarderOpens starts =>
    exact (numbered.setForwarder (numbered.forwarder_lt starts nofun)).of_processes
      rfl rfl rfl rfl rfl rfl
  | childReads reads => exact numbered.childReads (numbered.child_lt reads nofun)
  | mqSend sends fits room => exact numbered.mqSend sends
  | mqSendFails sends long => exact numbered.setChild _ (numbered.child_lt sends nofun) nofun
  | mqReceive receives queued =>
    exact (numbered.setForwarder (numbered.forwarder_lt receives nofun)).of_processes
      rfl rfl rfl rfl rfl rfl
  | writeServer holds =>
    exact (numbered.setForwarder (numbered.forwarder_lt holds nofun)).of_processes
      rfl rfl rfl rfl rfl rfl
  | serve sent => exact numbered.of_processes rfl rfl rfl rfl rfl rfl
  | readServer awaits arrived =>
    exact (numbered.setForwarder (numbered.forwarder_lt awaits nofun)).of_processes
      rfl rfl rfl rfl rfl rfl
  | writePipe replies =>
    exact (numbered.setForwarder (numbered.forwarder_lt replies nofun)).of_processes
      rfl rfl rfl rfl rfl rfl
  | readPipe waits piped =>
    exact (numbered.setChild (.answering _ _) (numbered.child_lt waits nofun) nofun).of_processes
      rfl rfl rfl rfl rfl rfl
  | writeClient answers =>
    exact (numbered.setChild .reading (numbered.child_lt answers nofun) nofun).of_processes
      rfl rfl rfl rfl rfl rfl

/-- A posted request is on its way to the data server or was answered, and an answer is on its
way back or was delivered, each as often as it was made. -/
structure Conserved (relay : Relay ServerState) : Prop where
  posted : ∀ request, relay.posted.count request =
    (relay.answered.map Reply.request).count request + (relay.queue.count request +
      relay.held.count request + relay.toServer.count request)
  answered : ∀ reply, relay.answered.count reply =
    (relay.delivered.map Delivery.reply).count reply + (relay.fromServer.count reply +
      relay.fetched.count reply + relay.pipe.count reply + relay.taken.count reply)

theorem conserved_start (server : ServerState) (queueExists : Bool) :
    (start server queueExists).Conserved :=
  ⟨fun _ => rfl, fun _ => rfl⟩

/-- A child moves on. What it held and what it holds now is accounted for elsewhere. -/
theorem count_taken_update {client : Nat} (child : Child) (accepted : next.accepted = relay.accepted)
    (children : next.children = Function.update relay.children client child)
    (bound : client < relay.accepted) (reply : Reply) :
    next.taken.count reply + (relay.children client).reply.toList.count reply =
      relay.taken.count reply + child.reply.toList.count reply := by
  rw [taken, accepted, children]
  exact count_filterMap_update Child.reply relay.children child bound reply

theorem count_fetched_update {client : Nat} (forwarder : Forwarder)
    (forwarding : next.forwarding = relay.forwarding)
    (forwarders : next.forwarders = Function.update relay.forwarders client forwarder)
    (bound : client < relay.forwarding) (reply : Reply) :
    next.fetched.count reply + (relay.forwarders client).reply.toList.count reply =
      relay.fetched.count reply + forwarder.reply.toList.count reply := by
  rw [fetched, forwarding, forwarders]
  exact count_filterMap_update Forwarder.reply relay.forwarders forwarder bound reply

theorem count_held_update {client : Nat} (forwarder : Forwarder)
    (forwarding : next.forwarding = relay.forwarding)
    (forwarders : next.forwarders = Function.update relay.forwarders client forwarder)
    (bound : client < relay.forwarding) (request : Frame) :
    next.held.count request + (relay.forwarders client).request.toList.count request =
      relay.held.count request + forwarder.request.toList.count request := by
  rw [held, forwarding, forwarders]
  exact count_filterMap_update Forwarder.request relay.forwarders forwarder bound request

/-- A step of a child moves replies from the pipe to the child and from the child to the client,
and requests from the child to the queue. -/
theorem Conserved.childSteps (conserved : relay.Conserved) {client : Nat} (child : Child)
    (bound : client < relay.accepted) (accepted : next.accepted = relay.accepted)
    (children : next.children = Function.update relay.children client child)
    (forwarding : next.forwarding = relay.forwarding) (forwarders : next.forwarders = relay.forwarders)
    (toServer : next.toServer = relay.toServer) (fromServer : next.fromServer = relay.fromServer)
    (answered : next.answered = relay.answered)
    (posts : ∀ request, next.posted.count request + relay.queue.count request =
      relay.posted.count request + next.queue.count request)
    (takes : ∀ reply, next.pipe.count reply + (next.delivered.map Delivery.reply).count reply +
        child.reply.toList.count reply =
      relay.pipe.count reply + (relay.delivered.map Delivery.reply).count reply +
        (relay.children client).reply.toList.count reply) : next.Conserved where
  posted request := by
    have before := conserved.posted request
    have moved := posts request
    rw [held, forwarding, forwarders, ← held, toServer, answered]
    omega
  answered reply := by
    have before := conserved.answered reply
    have moved := takes reply
    have updated := count_taken_update child accepted children bound reply
    rw [fetched, forwarding, forwarders, ← fetched, fromServer, answered]
    omega

/-- A step of a forwarder moves requests from the queue through it to the connection, and replies
from the connection through it to the pipe. -/
theorem Conserved.forwarderSteps (conserved : relay.Conserved) {client : Nat}
    (forwarder : Forwarder) (bound : client < relay.forwarding)
    (forwarding : next.forwarding = relay.forwarding)
    (forwarders : next.forwarders = Function.update relay.forwarders client forwarder)
    (accepted : next.accepted = relay.accepted) (children : next.children = relay.children)
    (posted : next.posted = relay.posted) (answered : next.answered = relay.answered)
    (delivered : next.delivered = relay.delivered)
    (sends : ∀ request, next.queue.count request + next.toServer.count request +
        forwarder.request.toList.count request =
      relay.queue.count request + relay.toServer.count request +
        (relay.forwarders client).request.toList.count request)
    (fetches : ∀ reply, next.fromServer.count reply + next.pipe.count reply +
        forwarder.reply.toList.count reply =
      relay.fromServer.count reply + relay.pipe.count reply +
        (relay.forwarders client).reply.toList.count reply) : next.Conserved where
  posted request := by
    have before := conserved.posted request
    have moved := sends request
    have updated := count_held_update forwarder forwarding forwarders bound request
    rw [posted, answered]
    omega
  answered reply := by
    have before := conserved.answered reply
    have moved := fetches reply
    have updated := count_fetched_update forwarder forwarding forwarders bound reply
    rw [taken, accepted, children, ← taken, answered, delivered]
    omega

theorem Conserved.step (conserved : relay.Conserved) (numbered : relay.Numbered)
    (stepped : relay.step respond action = some next) : next.Conserved := by
  cases steps_of_step stepped with
  | accept turn =>
    refine ⟨conserved.posted, fun reply => (conserved.answered reply).trans ?_⟩
    have same := filterMap_update_succ relay.accepted Child.reply relay.children .starting rfl
    simp only [taken, fetched, setChild, same]
  | fork turn =>
    have requests :=
      filterMap_update_succ relay.forwarding Forwarder.request relay.forwarders .starting rfl
    have replies :=
      filterMap_update_succ relay.forwarding Forwarder.reply relay.forwarders .starting rfl
    refine ⟨fun request => (conserved.posted request).trans ?_,
      fun reply => (conserved.answered reply).trans ?_⟩
    · simp only [held, setForwarder, requests]
    · simp only [fetched, taken, setForwarder, replies]
  | childOpens starts =>
    refine conserved.childSteps _ (numbered.child_lt starts nofun) rfl rfl rfl rfl rfl rfl rfl
      (fun request => rfl) (fun reply => ?_)
    rw [starts]
    split <;> rfl
  | forwarderOpens starts =>
    refine conserved.forwarderSteps _ (numbered.forwarder_lt starts nofun) rfl rfl rfl rfl rfl rfl
      rfl (fun request => ?_) (fun reply => ?_) <;> rw [starts] <;> rfl
  | childReads reads =>
    refine conserved.childSteps _ (numbered.child_lt reads nofun) rfl rfl rfl rfl rfl rfl rfl
      (fun request => rfl) (fun reply => ?_)
    rw [reads]
    rfl
  | mqSend sends fits room =>
    refine conserved.childSteps _ (numbered.child_lt sends nofun) rfl rfl rfl rfl rfl rfl rfl
      (fun request => ?_) (fun reply => ?_)
    · simp only [List.count_append]
      omega
    · rw [sends]
      rfl
  | mqSendFails sends long =>
    refine conserved.childSteps _ (numbered.child_lt sends nofun) rfl rfl rfl rfl rfl rfl rfl
      (fun request => rfl) (fun reply => ?_)
    rw [sends]
    rfl
  | mqReceive receives queued =>
    refine conserved.forwarderSteps _ (numbered.forwarder_lt receives nofun) rfl rfl rfl rfl rfl rfl
      rfl (fun request => ?_) (fun reply => ?_) <;> rw [receives]
    · simp only [queued, setForwarder, List.count_cons, Forwarder.request, Option.toList,
        List.count_nil]
      omega
    · rfl
  | writeServer holds =>
    refine conserved.forwarderSteps _ (numbered.forwarder_lt holds nofun) rfl rfl rfl rfl rfl rfl
      rfl (fun request => ?_) (fun reply => ?_) <;> rw [holds]
    · simp only [setForwarder, List.count_append, Forwarder.request, Option.toList, List.count_nil]
      omega
    · rfl
  | serve sent =>
    refine ⟨fun request => (conserved.posted request).trans ?_, fun reply => ?_⟩
    · simp only [sent, List.count_cons, List.count_nil, List.map_append, List.map_cons,
        List.map_nil, List.count_append]
      exact show _ + (_ + _ + _) = _ + (_ + relay.held.count request + _) by omega
    · have before := conserved.answered reply
      simp only [List.count_append]
      exact show _ = _ + (_ + relay.fetched.count reply + _ + relay.taken.count reply) by omega
  | readServer awaits arrived =>
    refine conserved.forwarderSteps _ (numbered.forwarder_lt awaits nofun) rfl rfl rfl rfl rfl rfl
      rfl (fun request => ?_) (fun reply => ?_) <;> rw [awaits]
    · rfl
    · simp only [arrived, setForwarder, List.count_cons, Forwarder.reply, Option.toList,
        List.count_nil]
      omega
  | writePipe replies =>
    refine conserved.forwarderSteps _ (numbered.forwarder_lt replies nofun) rfl rfl rfl rfl rfl rfl
      rfl (fun request => ?_) (fun reply => ?_) <;> rw [replies]
    · rfl
    · simp only [setForwarder, List.count_append, Forwarder.reply, Option.toList, List.count_nil]
      omega
  | readPipe waits piped =>
    refine conserved.childSteps _ (numbered.child_lt waits nofun) rfl rfl rfl rfl rfl rfl rfl
      (fun request => rfl) (fun reply => ?_)
    rw [waits]
    simp only [piped, setChild, List.count_cons, Child.reply, Option.toList, List.count_nil]
    omega
  | writeClient answers =>
    refine conserved.childSteps _ (numbered.child_lt answers nofun) rfl rfl rfl rfl rfl rfl rfl
      (fun request => rfl) (fun reply => ?_)
    rw [answers]
    simp only [setChild, Child.reply, Option.toList, List.map_append, List.map_cons, List.map_nil,
      List.count_append, List.count_nil]
    omega

/-- The requests on the connection, in the pipe and at the clients were made once. -/
theorem Conserved.lossless (conserved : relay.Conserved) :
    relay.answered.Perm (relay.delivered.map Delivery.reply ++ relay.inTransit) :=
  List.perm_iff_count.mpr fun reply => by
    simp only [inTransit, List.count_append]
    exact conserved.answered reply

theorem Conserved.once (conserved : relay.Conserved) (numbered : relay.Numbered) :
    ((relay.delivered.map Delivery.reply ++ relay.inTransit).map Reply.request).Nodup := by
  have distinct : (relay.answered.map Reply.request).Nodup := by
    refine List.nodup_iff_count_le_one.mpr fun request => ?_
    have bound := List.nodup_iff_count_le_one.mp numbered.distinct request
    have total := conserved.posted request
    omega
  exact (conserved.lossless.map Reply.request).nodup_iff.mp distinct

/-- The reply at the head of the pipe answers a request that was posted, that no client has the
reply to, and that no child holds the reply to. -/
theorem Conserved.head (conserved : relay.Conserved) (numbered : relay.Numbered) {reply : Reply}
    {pipe : List Reply} (piped : relay.pipe = reply :: pipe) :
    reply.request ∈ relay.posted ∧
      reply.request ∉ (relay.delivered.map Delivery.reply).map Reply.request ∧
      ∀ client request other, relay.children client = .answering request other →
        other.request ≠ reply.request := by
  have once := conserved.once numbered
  have inPipe : reply ∈ relay.pipe := piped ▸ List.mem_cons_self
  have onTheWay : reply ∈ relay.inTransit :=
    List.mem_append_left _ (List.mem_append_right _ inPipe)
  rw [List.map_append] at once
  refine ⟨?_, fun before => ?_, ?_⟩
  · have answered : reply ∈ relay.answered :=
      conserved.lossless.mem_iff.mpr (List.mem_append_right _ onTheWay)
    have counted : 0 < (relay.answered.map Reply.request).count reply.request :=
      List.count_pos_iff.mpr (List.mem_map_of_mem answered)
    have total := conserved.posted reply.request
    exact List.count_pos_iff.mp (by omega)
  · exact List.disjoint_of_nodup_append once before (List.mem_map_of_mem onTheWay)
  · intro client request other answers same
    have bound := numbered.child_lt answers nofun
    have holds : other ∈ relay.taken := List.mem_filterMap.mpr
      ⟨client, List.mem_range.mpr bound, by rw [answers]; rfl⟩
    have apart := once.of_append_right
    rw [inTransit, List.map_append] at apart
    exact List.disjoint_of_nodup_append apart
      (List.mem_map_of_mem (List.mem_append_right _ inPipe))
      (same ▸ List.mem_map_of_mem holds)

/-! ### What holds as long as nobody reads another's reply -/

/-- Every posted request was answered to its client, or its client holds the answer, or waits for
it. -/
structure Attended (relay : Relay ServerState) : Prop where
  posted : ∀ request ∈ relay.posted,
    request ∈ (relay.delivered.map Delivery.reply).map Reply.request ∨
      (∃ client pending reply, relay.children client = .answering pending reply ∧
        reply.request = request) ∨
      relay.children request.client = .waiting request
  waiting : ∀ client request, relay.children client = .waiting request → request.client = client
  answering : ∀ client request reply, relay.children client = .answering request reply →
    reply.request = request ∧ request.client = client
  own : ∀ delivery ∈ relay.delivered,
    delivery.reply.request = delivery.request ∧ delivery.request.client = delivery.client

theorem attended_start (server : ServerState) (queueExists : Bool) :
    (start server queueExists).Attended where
  posted request member := by cases member
  waiting client request waits := by cases waits
  answering client request reply answers := by cases answers
  own delivery member := by cases member

/-- A child that neither waits nor answers may become a child that does not answer, and waits at
most for its client. -/
theorem Attended.quiet (attended : relay.Attended) {client : Nat} {before : Child} (child : Child)
    (children : next.children = Function.update relay.children client child)
    (posted : next.posted = relay.posted) (delivered : next.delivered = relay.delivered)
    (was : relay.children client = before) (awaitedBefore : before.awaited = none)
    (replyBefore : before.reply = none)
    (awaitedAfter : ∀ request, child = .waiting request → request.client = client)
    (replyAfter : child.reply = none) : next.Attended := by
  have elsewhere : ∀ other, other ≠ client → next.children other = relay.children other :=
    fun other different => by rw [children, Function.update_of_ne different]
  have here : next.children client = child := by rw [children, Function.update_self]
  refine ⟨?_, ?_, ?_, delivered ▸ attended.own⟩
  · intro request member
    rw [posted] at member
    rw [delivered]
    refine (attended.posted request member).imp_right (Or.imp ?_ ?_)
    · rintro ⟨other, pending, reply, answers, same⟩
      refine ⟨other, pending, reply, ?_, same⟩
      rw [elsewhere other ?_, answers]
      rintro rfl
      cases was.symm.trans answers
      exact absurd replyBefore nofun
    · intro waits
      rw [elsewhere request.client ?_, waits]
      intro same
      rw [same] at waits
      cases was.symm.trans waits
      exact absurd awaitedBefore nofun
  · intro other request waits
    by_cases same : other = client
    · subst same
      exact awaitedAfter request (here.symm.trans waits)
    · exact attended.waiting other request (elsewhere other same ▸ waits)
  · intro other request reply answers
    by_cases same : other = client
    · subst same
      cases here.symm.trans answers
      exact absurd replyAfter nofun
    · exact attended.answering other request reply (elsewhere other same ▸ answers)

/-- The client whose child posts a request waits for it. -/
theorem Attended.mqSend (attended : relay.Attended) (numbered : relay.Numbered) {client : Nat}
    {request : Frame} (sends : relay.children client = .sending request) :
    Attended { relay.setChild client (.waiting request) with
      queue := relay.queue ++ [request], posted := relay.posted ++ [request] } := by
  have own := (numbered.sending client request sends).1
  refine ⟨?_, ?_, ?_, attended.own⟩
  · intro earlier member
    rcases List.mem_append.mp member with before | last
    · refine (attended.posted earlier before).imp_right (Or.imp ?_ ?_)
      · rintro ⟨other, pending, reply, answers, same⟩
        refine ⟨other, pending, reply, ?_, same⟩
        refine (setChild_of_ne _ ?_).trans answers
        rintro rfl
        cases sends.symm.trans answers
      · intro waits
        refine (setChild_of_ne _ ?_).trans waits
        intro same
        cases (same ▸ sends).symm.trans waits
    · rw [List.mem_singleton.mp last, own]
      exact .inr (.inr (setChild_self _))
  · intro other pending waits
    by_cases same : other = client
    · subst same
      cases (setChild_self _).symm.trans waits
      exact own
    · exact attended.waiting other pending ((setChild_of_ne _ same).symm.trans waits)
  · intro other pending reply answers
    by_cases same : other = client
    · subst same
      cases (setChild_self _).symm.trans answers
    · exact attended.answering other pending reply ((setChild_of_ne _ same).symm.trans answers)

/-- A child that reads the pipe while no other waits finds its own reply. -/
theorem Attended.readPipe (attended : relay.Attended) (numbered : relay.Numbered)
    (conserved : relay.Conserved) {client : Nat} {request : Frame} {reply : Reply}
    {pipe : List Reply} (waits : relay.children client = .waiting request)
    (piped : relay.pipe = reply :: pipe) (alone : relay.Unrivalled (.readPipe client)) :
    Attended { relay.setChild client (.answering request reply) with pipe := pipe } := by
  obtain ⟨posted, fresh, apart⟩ := conserved.head numbered piped
  have awaited : relay.children reply.request.client = .waiting reply.request := by
    rcases attended.posted reply.request posted with before | ⟨other, pending, held, answers, same⟩ |
      waiting
    · exact absurd before fresh
    · exact absurd same (apart other pending held answers)
    · exact waiting
  have mine : reply.request.client = client := by
    by_contra different
    have silent := alone _ (numbered.child_lt awaited nofun) different
    rw [awaited] at silent
    cases silent
  have same : reply.request = request := by
    rw [mine, waits] at awaited
    injection awaited with same
    exact same.symm
  refine ⟨?_, ?_, ?_, attended.own⟩
  · intro earlier member
    rcases attended.posted earlier member with before | ⟨other, pending, held, answers, equal⟩ |
      waiting
    · exact .inl before
    · refine .inr (.inl ⟨other, pending, held, (setChild_of_ne _ ?_).trans answers, equal⟩)
      rintro rfl
      cases waits.symm.trans answers
    · by_cases here : earlier.client = client
      · rw [here, waits] at waiting
        injection waiting with equal
        exact .inr (.inl ⟨client, request, reply, setChild_self _, same.trans equal⟩)
      · exact .inr (.inr ((setChild_of_ne _ here).trans waiting))
  · intro other pending stillWaits
    by_cases here : other = client
    · subst here
      cases (setChild_self _).symm.trans stillWaits
    · exact attended.waiting other pending ((setChild_of_ne _ here).symm.trans stillWaits)
  · intro other pending held answers
    by_cases here : other = client
    · subst here
      cases (setChild_self _).symm.trans answers
      exact ⟨same, attended.waiting other request waits⟩
    · exact attended.answering other pending held ((setChild_of_ne _ here).symm.trans answers)

/-- A child delivers the reply that it holds. -/
theorem Attended.writeClient (attended : relay.Attended) {client : Nat} {request : Frame}
    {reply : Reply} (answers : relay.children client = .answering request reply) :
    Attended { relay.setChild client .reading with
      delivered := relay.delivered ++ [⟨client, request, reply⟩] } := by
  refine ⟨?_, ?_, ?_, ?_⟩
  · intro earlier member
    simp only [List.map_append, List.mem_append]
    rcases attended.posted earlier member with before | ⟨other, pending, held, holds, equal⟩ |
      waiting
    · exact .inl (.inl before)
    · by_cases here : other = client
      · rw [here, answers] at holds
        cases holds
        exact .inl (.inr (List.mem_singleton.mpr equal.symm))
      · exact .inr (.inl ⟨other, pending, held, (setChild_of_ne _ here).trans holds, equal⟩)
    · refine .inr (.inr ((setChild_of_ne _ ?_).trans waiting))
      intro here
      rw [here, answers] at waiting
      cases waiting
  · intro other pending waits
    by_cases here : other = client
    · subst here
      cases (setChild_self _).symm.trans waits
    · exact attended.waiting other pending ((setChild_of_ne _ here).symm.trans waits)
  · intro other pending held holds
    by_cases here : other = client
    · subst here
      cases (setChild_self _).symm.trans holds
    · exact attended.answering other pending held ((setChild_of_ne _ here).symm.trans holds)
  · intro delivery member
    rcases List.mem_append.mp member with before | last
    · exact attended.own delivery before
    · rw [List.mem_singleton.mp last]
      exact attended.answering client request reply answers

theorem Attended.step (attended : relay.Attended) (numbered : relay.Numbered)
    (conserved : relay.Conserved) (alone : relay.Unrivalled action)
    (stepped : relay.step respond action = some next) : next.Attended := by
  have absent : relay.children relay.accepted = .absent := by
    by_contra present
    exact Nat.lt_irrefl _ (numbered.children _ present)
  cases steps_of_step stepped with
  | accept turn => exact attended.quiet .starting rfl rfl rfl absent rfl rfl nofun rfl
  | childOpens starts =>
    exact attended.quiet _ rfl rfl rfl starts rfl rfl (by split <;> nofun) (by split <;> rfl)
  | childReads reads => exact attended.quiet _ rfl rfl rfl reads rfl rfl nofun rfl
  | mqSend sends fits room => exact attended.mqSend numbered sends
  | mqSendFails sends long =>
    refine attended.quiet _ rfl rfl rfl sends rfl rfl (fun request waits => ?_) rfl
    cases waits
    exact (numbered.sending _ _ sends).1
  | readPipe waits piped => exact attended.readPipe numbered conserved waits piped alone
  | writeClient answers => exact attended.writeClient answers
  | _ => exact ⟨attended.posted, attended.waiting, attended.answering, attended.own⟩

/-! ### The run -/

theorem run_keeps (actions : List RelayStep) {final : Relay ServerState}
    (numbered : relay.Numbered) (conserved : relay.Conserved) (attended : relay.Attended)
    (alone : relay.RunUnrivalled respond actions) (ran : run respond actions relay = some final) :
    final.Numbered ∧ final.Conserved ∧ final.Attended := by
  induction actions generalizing relay with
  | nil =>
    cases ran
    exact ⟨numbered, conserved, attended⟩
  | cons action actions inductionHypothesis =>
    obtain ⟨next, stepped, rest⟩ := Option.bind_eq_some_iff.mp ran
    exact inductionHypothesis (numbered.step stepped) (conserved.step numbered stepped)
      (attended.step numbered conserved alone.1 stepped) (alone.2 next stepped) rest

/-- Replies reach the client that asked in every run in which no child reads the pipe while
another child waits for a reply, for any number of clients and any data server. -/
theorem unrivalled_run_routed (respond : ServerState → Text → Text × ServerState)
    (server : ServerState) (queueExists : Bool) (actions : List RelayStep)
    (relay : Relay ServerState)
    (alone : (start server queueExists).RunUnrivalled respond actions)
    (ran : run respond actions (start server queueExists) = some relay) : relay.Routed := by
  obtain ⟨numbered, conserved, attended⟩ := run_keeps actions
    (numbered_start server queueExists) (conserved_start server queueExists)
    (attended_start server queueExists) alone ran
  have once := conserved.once numbered
  rw [List.map_append] at once
  refine ⟨attended.own, ?_, conserved.lossless⟩
  have distinct := once.of_append_left
  rwa [List.map_map] at distinct

/-- Two clients connect, and each child reads a request. -/
def twoClients : List RelayStep :=
  [.accept, .fork, .forwarderOpens 0, .childOpens 0, .accept, .fork, .forwarderOpens 1,
    .childOpens 1, .childReads 0 "hats".toList, .childReads 1 "socks".toList]

/-- The request of a client goes to the data server, and its reply comes back into the pipe. -/
def roundTrip (client : Nat) : List RelayStep :=
  [.mqReceive client, .writeServer client, .serve, .readServer client, .writePipe client]

/-- A data server that answers each request with its text and counts them. -/
def echo (served : Nat) (text : Text) : Text × Nat :=
  (text, served + 1)

theorem unrivalled_run_routed_inTurn :
    (run echo (twoClients ++ ([.mqSend 0] : List RelayStep) ++ roundTrip 0 ++
      ([.readPipe 0, .writeClient 0, .mqSend 1] : List RelayStep) ++ roundTrip 0 ++
        ([.readPipe 1, .writeClient 1] : List RelayStep)) (start 0 false)).any
        (fun relay => relay.delivered.length = 2) = true ∧
      ∀ relay, run echo (twoClients ++ ([.mqSend 0] : List RelayStep) ++ roundTrip 0 ++
        ([.readPipe 0, .writeClient 0, .mqSend 1] : List RelayStep) ++ roundTrip 0 ++
          ([.readPipe 1, .writeClient 1] : List RelayStep)) (start 0 false) = some relay →
        relay.Routed :=
  ⟨by decide, fun relay ran =>
    unrivalled_run_routed echo 0 false _ relay (by decide) ran⟩

/-- Both children post, and the second one is the first to read the pipe: its client gets the
reply to the first one's request. -/
theorem crossed_not_routed :
    ∃ relay, run echo (twoClients ++ [.mqSend 0, .mqSend 1] ++ roundTrip 0 ++
      [.readPipe 1, .writeClient 1]) (start 0 false) = some relay ∧
        relay.delivered = [⟨1, ⟨1, 0, "socks".toList⟩, ⟨⟨0, 0, "hats".toList⟩, "hats".toList⟩⟩] ∧
        ¬relay.Routed := by
  refine ⟨_, rfl, rfl, fun routed => ?_⟩
  have own := (routed.own _ (List.mem_singleton_self _)).1
  cases own

end Relay

end OnlineStore
