/-
This file joins the relay to the data server and its market. The forwarders share one connection,
so the data server has one thread for them and handles their requests one after the other.

The data server's part of a run is therefore a sequential run of its handlers over the files
(`InTurn`), whatever the order of the other steps is. When the market serves the requests in this
order, and what is handed over fits the files, the answers are the market's and the files hold the
market after them. If besides no child reads the pipe while another waits, the order explains what
the clients see (`linearizable`): each of them gets the answer to its own request, its requests are
answered in the order in which it makes them, and what is posted after a reply has arrived is
answered after it.
-/

import OnlineStore.Layers
import OnlineStore.Relay

namespace OnlineStore

open CString

namespace Relay

/-! ### The data server's part of a run -/

section InTurn

variable {ServerState : Type} {respond : ServerState → Text → Text × ServerState}
variable {relay next : Relay ServerState} {action : RelayStep} {server : ServerState}

/-- The answers of a data server that is asked texts one after the other. -/
def replay (respond : ServerState → Text → Text × ServerState) :
    List Text → ServerState → List Text × ServerState
  | [], server => ([], server)
  | text :: texts, server =>
    ((respond server text).1 :: (replay respond texts (respond server text).2).1,
      (replay respond texts (respond server text).2).2)

theorem replay_concat (texts : List Text) (text : Text) :
    replay respond (texts ++ [text]) server =
      ((replay respond texts server).1 ++ [(respond (replay respond texts server).2 text).1],
        (respond (replay respond texts server).2 text).2) := by
  induction texts generalizing server with
  | nil => rfl
  | cons first texts inductionHypothesis =>
    rw [List.cons_append, replay, inductionHypothesis]
    rfl

/-- The texts that the data server has answered, in its order. -/
def asked (relay : Relay ServerState) : List Text :=
  relay.answered.map fun reply => reply.request.text

/-- The data server is as if it had been asked the texts one after the other. -/
def InTurn (respond : ServerState → Text → Text × ServerState) (server : ServerState)
    (relay : Relay ServerState) : Prop :=
  replay respond relay.asked server = (relay.answered.map Reply.text, relay.server)

theorem inTurn_start (server : ServerState) (queueExists : Bool) :
    InTurn respond server (start server queueExists) :=
  rfl

theorem InTurn.step (inTurn : InTurn respond server relay)
    (stepped : relay.step respond action = some next) : InTurn respond server next := by
  cases steps_of_step stepped with
  | @serve request toServer sent =>
    have before : replay respond (relay.answered.map fun reply => reply.request.text) server =
      (relay.answered.map Reply.text, relay.server) := inTurn
    rw [InTurn, asked, List.map_append, List.map_append]
    refine (replay_concat _ request.text).trans ?_
    rw [before]
    rfl
  | _ => exact inTurn

theorem inTurn_of_run (actions : List RelayStep) {final : Relay ServerState}
    (inTurn : InTurn respond server relay) (ran : run respond actions relay = some final) :
    InTurn respond server final := by
  induction actions generalizing relay with
  | nil =>
    cases ran
    exact inTurn
  | cons action actions inductionHypothesis =>
    obtain ⟨next, stepped, rest⟩ := Option.bind_eq_some_iff.mp ran
    exact inductionHypothesis (inTurn.step stepped) rest

/-- Answers are only added. -/
theorem answered_of_step (stepped : relay.step respond action = some next) :
    ∃ since, next.answered = relay.answered ++ since := by
  cases steps_of_step stepped with
  | serve => exact ⟨_, rfl⟩
  | _ => exact ⟨[], (List.append_nil _).symm⟩

theorem answered_of_run (actions : List RelayStep) {final : Relay ServerState}
    (ran : run respond actions relay = some final) :
    ∃ since, final.answered = relay.answered ++ since := by
  induction actions generalizing relay with
  | nil =>
    cases ran
    exact ⟨[], (List.append_nil _).symm⟩
  | cons action actions inductionHypothesis =>
    obtain ⟨next, stepped, rest⟩ := Option.bind_eq_some_iff.mp ran
    obtain ⟨first, grown⟩ := answered_of_step stepped
    obtain ⟨since, grows⟩ := inductionHypothesis rest
    exact ⟨first ++ since, by rw [grows, grown, List.append_assoc]⟩

theorem run_append (earlier later : List RelayStep) (relay : Relay ServerState) :
    run respond (earlier ++ later) relay =
      (run respond earlier relay).bind (run respond later) := by
  induction earlier generalizing relay with
  | nil => rfl
  | cons action earlier inductionHypothesis =>
    rw [List.cons_append, run, run, Option.bind_assoc]
    exact Option.bind_congr fun next _ => inductionHypothesis next

theorem RunUnrivalled.of_append {earlier later : List RelayStep}
    (alone : relay.RunUnrivalled respond (earlier ++ later)) :
    relay.RunUnrivalled respond earlier := by
  induction earlier generalizing relay with
  | nil => exact trivial
  | cons action earlier inductionHypothesis =>
    exact ⟨alone.1, fun next stepped => inductionHypothesis (alone.2 next stepped)⟩

end InTurn

/-! ### The order of the answers -/

section Ordered

variable {ServerState : Type} {respond : ServerState → Text → Text × ServerState}
variable {relay next : Relay ServerState} {action : RelayStep} {reply : Reply} {request : Frame}

theorem Conserved.mem_posted (conserved : relay.Conserved) (member : reply ∈ relay.answered) :
    reply.request ∈ relay.posted := by
  have counted : 0 < (relay.answered.map Reply.request).count reply.request :=
    List.count_pos_iff.mpr (List.mem_map_of_mem member)
  have total := conserved.posted reply.request
  exact List.count_pos_iff.mp (by omega)

theorem Conserved.mem_answered (conserved : relay.Conserved)
    (member : reply ∈ relay.delivered.map Delivery.reply) : reply ∈ relay.answered :=
  conserved.lossless.mem_iff.mpr (List.mem_append_left _ member)

/-- What the data server is about to read was posted and is not answered yet. -/
theorem Conserved.sent (conserved : relay.Conserved) (numbered : relay.Numbered)
    (member : request ∈ relay.toServer) :
    request ∈ relay.posted ∧ request ∉ relay.answered.map Reply.request := by
  have counted : 0 < relay.toServer.count request := List.count_pos_iff.mpr member
  have total := conserved.posted request
  have bound := List.nodup_iff_count_le_one.mp numbered.distinct request
  refine ⟨List.count_pos_iff.mp (by omega), fun answered => ?_⟩
  have again := List.count_pos_iff.mpr answered
  omega

/-- Its client waits for it. -/
theorem Attended.sent (attended : relay.Attended) (conserved : relay.Conserved)
    (numbered : relay.Numbered) (member : request ∈ relay.toServer) :
    relay.children request.client = .waiting request := by
  obtain ⟨posted, unanswered⟩ := conserved.sent numbered member
  rcases attended.posted request posted with delivered | ⟨client, pending, reply, answers, same⟩ |
    waits
  · obtain ⟨reply, delivered, same⟩ := List.mem_map.mp delivered
    exact absurd (same ▸ List.mem_map_of_mem (conserved.mem_answered delivered)) unanswered
  · have bound := numbered.child_lt answers nofun
    have taken : reply ∈ relay.taken := List.mem_filterMap.mpr
      ⟨client, List.mem_range.mpr bound, by rw [answers]; rfl⟩
    have answered : reply ∈ relay.answered := conserved.lossless.mem_iff.mpr
      (List.mem_append_right _ (List.mem_append_right _ taken))
    exact absurd (same ▸ List.mem_map_of_mem answered) unanswered
  · exact waits

/-- The requests of one client come in the order in which it makes them. -/
def Before (first second : Reply) : Prop :=
  first.request.client = second.request.client → first.request.number < second.request.number

/-- A client waits for its latest request, and the requests of each client are answered in the
order in which it makes them. -/
structure Ordered (relay : Relay ServerState) : Prop where
  latest : ∀ client request, relay.children client = .waiting request →
    ∀ other ∈ relay.posted, other.client = client →
      other = request ∨ other.number < request.number
  sessions : relay.answered.Pairwise Before

theorem ordered_start (server : ServerState) (queueExists : Bool) :
    (start server queueExists).Ordered :=
  ⟨nofun, List.Pairwise.nil⟩

/-- A step that posts and answers nothing, and after which no more children wait. -/
theorem Ordered.quiet (ordered : relay.Ordered) (posted : next.posted = relay.posted)
    (answered : next.answered = relay.answered)
    (waiting : ∀ client request, next.children client = .waiting request →
      relay.children client = .waiting request) : next.Ordered := by
  refine ⟨fun client request waits other member => ?_, answered ▸ ordered.sessions⟩
  exact ordered.latest client request (waiting client request waits) other (posted ▸ member)

theorem waiting_of_setChild {client other : Nat} {child : Child} (quiet : child.awaited = none)
    (waits : (relay.setChild client child).children other = .waiting request) :
    relay.children other = .waiting request := by
  by_cases same : other = client
  · rw [same, setChild_self] at waits
    rw [waits] at quiet
    cases quiet
  · rwa [setChild_of_ne child same] at waits

theorem Ordered.mqSend (ordered : relay.Ordered) (numbered : relay.Numbered) {client : Nat}
    (sends : relay.children client = .sending request) :
    Ordered { relay.setChild client (.waiting request) with
      queue := relay.queue ++ [request], posted := relay.posted ++ [request] } := by
  obtain ⟨own, -, newest⟩ := numbered.sending client request sends
  refine ⟨fun waiter awaited waits other member mine => ?_, ordered.sessions⟩
  have waits : (relay.setChild client (.waiting request)).children waiter = .waiting awaited :=
    waits
  by_cases same : waiter = client
  · subst same
    rw [setChild_self] at waits
    cases waits
    rcases List.mem_append.mp member with before | last
    · exact .inr (newest other before mine)
    · exact .inl (List.mem_singleton.mp last)
  · rw [setChild_of_ne _ same] at waits
    rcases List.mem_append.mp member with before | last
    · exact ordered.latest waiter awaited waits other before mine
    · rw [List.mem_singleton.mp last, own] at mine
      exact absurd mine.symm same

/-- A request that is too long is not posted. -/
theorem Ordered.mqSendFails (ordered : relay.Ordered) (numbered : relay.Numbered) {client : Nat}
    (sends : relay.children client = .sending request) :
    (relay.setChild client (.waiting request)).Ordered := by
  obtain ⟨-, -, newest⟩ := numbered.sending client request sends
  refine ⟨fun waiter awaited waits other member mine => ?_, ordered.sessions⟩
  by_cases same : waiter = client
  · subst same
    rw [setChild_self] at waits
    cases waits
    exact .inr (newest other member mine)
  · rw [setChild_of_ne _ same] at waits
    exact ordered.latest waiter awaited waits other member mine

theorem Ordered.serve (ordered : relay.Ordered) (numbered : relay.Numbered)
    (conserved : relay.Conserved) (attended : relay.Attended) {toServer : List Frame}
    (sent : relay.toServer = request :: toServer) (text : Text) :
    (relay.answered ++ [Reply.mk request text]).Pairwise Before := by
  have member : request ∈ relay.toServer := sent ▸ List.mem_cons_self
  obtain ⟨-, unanswered⟩ := conserved.sent numbered member
  have waits := attended.sent conserved numbered member
  refine List.pairwise_append.mpr ⟨ordered.sessions, List.pairwise_singleton _ _, ?_⟩
  intro reply answered last isLast same
  rw [List.mem_singleton.mp isLast] at same ⊢
  rcases ordered.latest _ _ waits _ (conserved.mem_posted answered) same with own | earlier
  · exact absurd (own ▸ List.mem_map_of_mem answered) unanswered
  · exact earlier

theorem Ordered.step (ordered : relay.Ordered) (numbered : relay.Numbered)
    (conserved : relay.Conserved) (attended : relay.Attended)
    (stepped : relay.step respond action = some next) : next.Ordered := by
  cases steps_of_step stepped with
  | accept => exact ordered.quiet rfl rfl fun _ _ => waiting_of_setChild rfl
  | childOpens =>
    exact ordered.quiet rfl rfl fun _ _ => waiting_of_setChild (by split <;> rfl)
  | childReads => exact ordered.quiet rfl rfl fun _ _ => waiting_of_setChild rfl
  | mqSend sends fits room => exact ordered.mqSend numbered sends
  | mqSendFails sends long => exact ordered.mqSendFails numbered sends
  | serve sent => exact ⟨ordered.latest, ordered.serve numbered conserved attended sent _⟩
  | readPipe waits piped => exact ordered.quiet rfl rfl fun _ _ => waiting_of_setChild rfl
  | writeClient answers => exact ordered.quiet rfl rfl fun _ _ => waiting_of_setChild rfl
  | _ => exact ⟨ordered.latest, ordered.sessions⟩

theorem ordered_of_run (actions : List RelayStep) {final : Relay ServerState}
    (ordered : relay.Ordered) (numbered : relay.Numbered) (conserved : relay.Conserved)
    (attended : relay.Attended) (alone : relay.RunUnrivalled respond actions)
    (ran : run respond actions relay = some final) : final.Ordered := by
  induction actions generalizing relay with
  | nil =>
    cases ran
    exact ordered
  | cons action actions inductionHypothesis =>
    obtain ⟨next, stepped, rest⟩ := Option.bind_eq_some_iff.mp ran
    exact inductionHypothesis (ordered.step numbered conserved attended stepped)
      (numbered.step stepped) (conserved.step numbered stepped)
      (attended.step numbered conserved alone.1 stepped) (alone.2 next stepped) rest

end Ordered

end Relay

/-! ### The thread of the connection -/

/-- The data server as its thread for the relay leaves it. The clock is read once for each
request. -/
structure DataServer where
  world : World Files
  received : Nat

/-- The handler of a text, and what it writes to the socket. A text whose handler crashes or
writes nothing leaves the relay waiting, so runs are told of the others only. -/
def DataServer.respond (rand : Rand) (clock : Nat → Nat) (server : DataServer) (text : Text) :
    Text × DataServer :=
  match serveOnDisk rand (clock server.received) text server.world with
  | some world =>
    ((world.replies.drop server.world.replies.length).flatten, ⟨world, server.received + 1⟩)
  | none => ([], server)

/-- The requests with the readings of the clock. -/
def timed (clock : Nat → Nat) : Nat → List Request → List (Nat × Request)
  | _, [] => []
  | received, request :: requests =>
    (clock received, request) :: timed clock (received + 1) requests

section Sequence

variable {rand : Rand} {clock : Nat → Nat} {market after : Market}
variable {answers : List Market.Answer} {requests : List Request} {received : Nat}

theorem length_answers_le
    (served : market.serveAll rand (timed clock received requests) = some (after, answers)) :
    answers.length ≤ requests.length := by
  induction requests generalizing market answers received with
  | nil =>
    cases served
    exact Nat.le_refl 0
  | cons request requests inductionHypothesis =>
    obtain ⟨⟨next, answer⟩, -, rest⟩ := Option.bind_eq_some_iff.mp served
    obtain ⟨⟨last, others⟩, later, ends⟩ := Option.bind_eq_some_iff.mp rest
    cases ends
    have shorter := inductionHypothesis later
    rw [List.length_append, List.length_cons]
    cases answer with
    | none => exact (Nat.zero_add _).le.trans (Nat.le_succ_of_le shorter)
    | some answer => exact (Nat.add_comm 1 _).le.trans (Nat.succ_le_succ shorter)

/-- A request that the market answers is answered so by the data server. -/
theorem respond_eq {request : Request} {world final : World Tables} {disk disk' : World Files}
    {answer : Market.Answer} (inStep : InStep world disk) (inStep' : InStep final disk')
    (served : serve diskBacking rand (clock received) request.message disk = some disk')
    (replies : final.replies = world.replies ++ [answer.text]) :
    DataServer.respond rand clock ⟨disk.unlogged, received⟩ request.message =
      (answer.text, ⟨disk'.unlogged, received + 1⟩) := by
  have replied : disk'.unlogged.replies.drop disk.unlogged.replies.length = [answer.text] := by
    show disk'.replies.drop disk.replies.length = [answer.text]
    rw [inStep'.replies, replies, inStep.replies, List.drop_left]
  rw [DataServer.respond, serveOnDisk_unlogged, served, Option.map_some]
  show ((disk'.unlogged.replies.drop disk.unlogged.replies.length).flatten, _) = _
  rw [replied, List.flatten_singleton]

/-- The data server that is asked the requests one after the other. -/
theorem replay_respond {world final : World Tables} {disk : World Files}
    {handed : List (Σ file : DbFile, List file.Row)} (represents : market.Represents world.store)
    (inStep : InStep world disk)
    (served : market.serveAll rand (timed clock received requests) = some (after, answers))
    (answered : answers.length = requests.length)
    (ran : serveAll tableBacking rand (timed clock received requests) world = some final)
    (own : final.handed = world.handed ++ handed) (fitting : Fitting (ends disk.store) handed) :
    ∃ disk', Relay.replay (DataServer.respond rand clock) (requests.map Request.message)
        ⟨disk.unlogged, received⟩ =
          (answers.map Market.Answer.text, ⟨disk'.unlogged, received + requests.length⟩) ∧
      InStep final disk' ∧ after.Represents final.store := by
  induction requests generalizing market answers world disk handed received with
  | nil =>
    cases served
    cases ran
    exact ⟨disk, rfl, inStep, represents⟩
  | cons request requests inductionHypothesis =>
    obtain ⟨⟨next, answer⟩, one, rest⟩ := Option.bind_eq_some_iff.mp served
    obtain ⟨⟨last, others⟩, later, ends⟩ := Option.bind_eq_some_iff.mp rest
    cases ends
    obtain ⟨middle, effect, keeps⟩ := represents.effect rand (clock received) request one
    have first : serve tableBacking rand (clock received) request.message world = some middle :=
      (serve_message rand (clock received) (fun _ => rfl) request).trans effect
    rw [timed, OnlineStore.serveAll, first, Option.bind_some] at ran
    -- No request is without an answer, since there are as many answers as requests.
    have fewer := length_answers_le later
    rw [List.length_append, List.length_cons] at answered
    cases answer with
    | none =>
      rw [Option.toList_none, List.length_nil] at answered
      omega
    | some answer =>
      rw [Option.toList_some, List.length_singleton] at answered
      obtain ⟨⟨_, _⟩, finished, rfl⟩ := Option.map_eq_some_iff.mp first
      obtain ⟨earlier, before⟩ := handed_of_run _ finished
      obtain ⟨rest, split⟩ := handed_of_serveAll rand ran
      obtain rfl : handed = earlier ++ rest := by
        rw [before, own, List.append_assoc] at split
        exact List.append_cancel_left split
      obtain ⟨disk₁, first', inStep₁, fitting⟩ := inStep.serve first before fitting
      obtain ⟨disk', replayed, inStep', represents'⟩ := inductionHypothesis keeps.represents
        inStep₁ later (by omega) ran split fitting
      refine ⟨disk', ?_, inStep', represents'⟩
      rw [List.map_cons, Relay.replay, respond_eq inStep inStep₁ first' keeps.replies, replayed]
      exact Prod.ext rfl (congrArg (DataServer.mk _) (Nat.succ_add_eq_add_succ _ _))

end Sequence

/-! ### The whole store -/

/-- The answers, in the order in which the data server gives them, explain what the clients see,
for a state in the middle of the run and its last one. -/
structure Linearizes (answers : List Market.Answer) (middle final : Relay DataServer) : Prop where
  texts : final.answered.map Reply.text = answers.map Market.Answer.text
  own : ∀ delivery ∈ final.delivered, delivery.reply ∈ final.answered ∧
    delivery.reply.request = delivery.request ∧ delivery.request.client = delivery.client
  sessions : final.answered.Pairwise Relay.Before
  realTime : ∀ delivery ∈ middle.delivered, ∀ reply ∈ final.answered,
    reply.request ∉ middle.posted → [delivery.reply, reply].Sublist final.answered

section Run

variable {rand : Rand} {clock : Nat → Nat} {market after : Market} {files : Files}
variable {queueExists : Bool} {actions : List RelayStep} {relay : Relay DataServer}
variable {answers : List Market.Answer} {requests : List Request}

/-- In whatever order the processes take their steps, the data server answers as the market does,
and its files hold the market. -/
theorem Market.OnDisk.relayed (onDisk : market.OnDisk files)
    (ran : Relay.run (DataServer.respond rand clock) actions
      (Relay.start ⟨⟨files, [], [], []⟩, 0⟩ queueExists) = some relay)
    (asked : relay.asked = requests.map Request.message)
    (served : market.serveAll rand (timed clock 0 requests) = some (after, answers))
    (answered : answers.length = requests.length)
    (fit : AllFit rand (timed clock 0 requests) files) :
    after.OnDisk relay.server.world.store ∧
      relay.answered.map Reply.text = answers.map Market.Answer.text := by
  obtain ⟨tables, loads, represents⟩ := onDisk
  have starts : market.Represents (World.store ⟨tables, [], [], []⟩) := represents
  obtain ⟨world, ran', -⟩ := starts.serveAll rand _ served
  have inStep : InStep ⟨tables, [], [], []⟩ ⟨files, [], [], []⟩ := ⟨loads, rfl, rfl, rfl⟩
  obtain ⟨disk, replayed, inStep', represents'⟩ := replay_respond starts inStep served answered
    ran' (List.nil_append _).symm (fit tables loads world ran')
  have inTurn : Relay.InTurn (DataServer.respond rand clock) ⟨⟨files, [], [], []⟩, 0⟩ relay :=
    Relay.inTurn_of_run actions (Relay.inTurn_start _ _) ran
  rw [Relay.InTurn, asked] at inTurn
  obtain ⟨texts, server⟩ := Prod.mk.inj (inTurn.symm.trans replayed)
  refine ⟨⟨world.store, ?_, represents'⟩, texts⟩
  rw [server]
  exact inStep'.loads

/-- The store is linearizable as long as no child reads the pipe while another child waits for a
reply: the clients see the market, at the order in which the data server answers, and the files
hold it. -/
theorem linearizable (onDisk : market.OnDisk files) {earlier later : List RelayStep}
    {middle final : Relay DataServer}
    (alone : (Relay.start ⟨⟨files, [], [], []⟩, 0⟩ queueExists).RunUnrivalled
      (DataServer.respond rand clock) (earlier ++ later))
    (ran : Relay.run (DataServer.respond rand clock) earlier
      (Relay.start ⟨⟨files, [], [], []⟩, 0⟩ queueExists) = some middle)
    (goesOn : Relay.run (DataServer.respond rand clock) later middle = some final)
    (asked : final.asked = requests.map Request.message)
    (served : market.serveAll rand (timed clock 0 requests) = some (after, answers))
    (answered : answers.length = requests.length)
    (fit : AllFit rand (timed clock 0 requests) files) :
    after.OnDisk final.server.world.store ∧ Linearizes answers middle final := by
  have whole : Relay.run (DataServer.respond rand clock) (earlier ++ later)
      (Relay.start ⟨⟨files, [], [], []⟩, 0⟩ queueExists) = some final := by
    rw [Relay.run_append, ran]
    exact goesOn
  obtain ⟨holds, texts⟩ := onDisk.relayed whole asked served answered fit
  obtain ⟨numbered, conserved, attended⟩ := Relay.run_keeps _ (Relay.numbered_start _ _)
    (Relay.conserved_start _ _) (Relay.attended_start _ _) alone whole
  have ordered := Relay.ordered_of_run _ (Relay.ordered_start _ _) (Relay.numbered_start _ _)
    (Relay.conserved_start _ _) (Relay.attended_start _ _) alone whole
  obtain ⟨-, conserved', -⟩ := Relay.run_keeps _ (Relay.numbered_start _ _)
    (Relay.conserved_start _ _) (Relay.attended_start _ _) (alone.of_append) ran
  refine ⟨holds, texts, fun delivery delivered => ⟨?_, attended.own delivery delivered⟩,
    ordered.sessions, fun delivery delivered reply answered later => ?_⟩
  · exact conserved.mem_answered (List.mem_map_of_mem delivered)
  · obtain ⟨since, grown⟩ := Relay.answered_of_run _ goesOn
    have first : delivery.reply ∈ middle.answered :=
      conserved'.mem_answered (List.mem_map_of_mem delivered)
    rw [grown] at answered ⊢
    rcases List.mem_append.mp answered with before | second
    · exact absurd (conserved'.mem_posted before) later
    · exact (List.singleton_sublist.mpr first).append (List.singleton_sublist.mpr second)

end Run

/-- The buyer moves, and orders two pieces. -/
def movesAndOrders : List Request :=
  [.editInfo .buyer firstBuyer moved,
    .completeOrder firstBuyer [⟨Token.ofNumber 2000, Token.ofNumber 2, Token.ofNumber 4⟩]]

/-- Two clients connect, and the request of the first one is answered. -/
def firstShops : List RelayStep :=
  [.accept, .fork, .forwarderOpens 0, .childOpens 0, .accept, .fork, .forwarderOpens 1,
    .childOpens 1, .childReads 0 (Request.editInfo .buyer firstBuyer moved).message, .mqSend 0] ++
    Relay.roundTrip 0 ++ [.readPipe 0, .writeClient 0]

/-- The request of the second client is answered, through the forwarder of the first. -/
def secondShops : List RelayStep :=
  [.childReads 1 (Request.completeOrder firstBuyer
    [⟨Token.ofNumber 2000, Token.ofNumber 2, Token.ofNumber 4⟩]).message, .mqSend 1] ++
    Relay.roundTrip 0 ++ [.readPipe 1, .writeClient 1]

theorem linearizable_movesAndOrders :
    ∃ after answers middle final,
      booked_openingTables.market.serveAll id (timed id 0 movesAndOrders) = some (after, answers) ∧
      Relay.run (DataServer.respond id id) firstShops
        (Relay.start ⟨⟨openingFiles, [], [], []⟩, 0⟩ false) = some middle ∧
      Relay.run (DataServer.respond id id) secondShops middle = some final ∧
      after.OnDisk final.server.world.store ∧ Linearizes answers middle final := by
  have day : (booked_openingTables.market.serveAll id (timed id 0 movesAndOrders)).map
      (fun served => served.2.length) = some movesAndOrders.length := by
    decide +kernel
  obtain ⟨⟨after, answers⟩, served, answered⟩ := Option.map_eq_some_iff.mp day
  have run : ((Relay.run (DataServer.respond id id) firstShops
      (Relay.start ⟨⟨openingFiles, [], [], []⟩, 0⟩ false)).bind fun middle =>
        (Relay.run (DataServer.respond id id) secondShops middle).map Relay.asked) =
          some (movesAndOrders.map Request.message) := by
    decide +kernel
  obtain ⟨middle, ran, rest⟩ := Option.bind_eq_some_iff.mp run
  obtain ⟨final, goesOn, asked⟩ := Option.map_eq_some_iff.mp rest
  have fit : AllFit id (timed id 0 movesAndOrders) openingFiles :=
    allFit_openingFiles (by decide +kernel)
  exact ⟨after, answers, middle, final, served, ran, goesOn,
    linearizable onDisk_openingFiles (by decide +kernel) ran goesOn asked served answered fit⟩

end OnlineStore
