import PipelineServer.Proofs.Workspace.Run
import PipelineServer.Server.Run

/-!
Questions and answers: what the client gets to see of a server that is running.

A message is one of four things: a response, which is ignored; a message of an unknown method or
with parameters that cannot be read, which is declined; or a message that means an event for the
workspace (`Incoming.kind`). `Workspace.Conduct` says what each of them leads to, and
`Workspace.receive_conduct` that every message is treated so. The answers of a whole run are then
the answers of its messages, one after the other (`Server.outputs_answers`).
-/

namespace PipelineServer

/-- The request that a message from the client makes. -/
def Incoming.asks? : Incoming → Option RequestId
  | .request id _ _ => some id
  | .response _ | .notification _ _ => none

/-- The request that a message to the client answers. -/
def Outgoing.answers? : Outgoing → Option RequestId
  | .result id _ | .failure id _ _ => some id
  | .notification _ _ => none

/-- The diagnostics of a file as they are sent. -/
def Outgoing.publication (entry : Uri × List Diagnostic) : Outgoing :=
  .notification "textDocument/publishDiagnostics" (Encode.publication entry.1 entry.2)

namespace Output

def sent? : Output → Option Outgoing
  | .send message => some message
  | .log _ _ | .deleted _ | .made _ => none

/-- The messages to the client, in the order in which they are sent. -/
def sent (outputs : List Output) : List Outgoing := outputs.filterMap sent?

theorem sent_append (first later : List Output) :
    sent (first ++ later) = sent first ++ sent later :=
  List.filterMap_append

/-- Of what a workspace does, the client sees the diagnostics. -/
theorem sent_ofEffect (trace : Trace) :
    sent (trace.map ofEffect) = trace.published.map Outgoing.publication := by
  induction trace with
  | nil => rfl
  | cons effect rest ih =>
    cases effect with
    | publish uri diagnostics => exact congrArg (Outgoing.publication (uri, diagnostics) :: ·) ih
    | log level text => exact ih
    | deleted directory => exact ih
    | made directory => exact ih

theorem sent_reportLine (method : String) (reports : List Report) :
    sent (reports.map (Workspace.reportLine method)) = [] := by
  induction reports with
  | nil => rfl
  | cons report rest ih => exact ih

end Output

theorem Outgoing.answers?_publications (news : PublishSet) :
    (news.map publication).filterMap answers? = [] := by
  induction news with
  | nil => rfl
  | cons entry rest ih => exact ih

namespace Incoming

def requestMethods : List String :=
  ["textDocument/completion", "textDocument/hover", "textDocument/documentSymbol"]

def notificationMethods : List String :=
  ["textDocument/didOpen", "textDocument/didChange", "textDocument/didSave",
    "textDocument/didClose", "workspace/didChangeWatchedFiles", "workspace/didChangeConfiguration"]

/-- A message of a method that is not known. -/
inductive Unknown : Incoming → String → Prop
  | request {id : RequestId} {method : String} {params : Json} (h : method ∉ requestMethods) :
      Unknown (.request id method params) method
  | notification {method : String} {params : Json} (h : method ∉ notificationMethods) :
      Unknown (.notification method params) method

/-- A message of a known method with parameters that cannot be read. -/
inductive Unreadable : Incoming → Prop
  | completion {id : RequestId} {params : Json} {reason : String}
      (h : Params.completionPlace params = .error reason) :
      Unreadable (.request id "textDocument/completion" params)
  | hover {id : RequestId} {params : Json} {reason : String}
      (h : Params.place params = .error reason) :
      Unreadable (.request id "textDocument/hover" params)
  | outline {id : RequestId} {params : Json} {reason : String}
      (h : Params.outlined params = .error reason) :
      Unreadable (.request id "textDocument/documentSymbol" params)
  | opened {params : Json} {reason : String} (h : Params.opened params = .error reason) :
      Unreadable (.notification "textDocument/didOpen" params)
  | edited {params : Json} {reason : String} (h : Params.edited params = .error reason) :
      Unreadable (.notification "textDocument/didChange" params)
  | saved {params : Json} {reason : String} (h : Params.saved params = .error reason) :
      Unreadable (.notification "textDocument/didSave" params)
  | closed {params : Json} {reason : String} (h : Params.closed params = .error reason) :
      Unreadable (.notification "textDocument/didClose" params)
  | watched {params : Json} {reason : String} (h : Params.watched params = .error reason) :
      Unreadable (.notification "workspace/didChangeWatchedFiles" params)
  | settings {params : Json} {reason : String} (h : Params.settings params = .error reason) :
      Unreadable (.notification "workspace/didChangeConfiguration" params)

/-- A message that is understood, and what it is for the workspace. -/
inductive Means : Incoming → Event → Prop
  | completion {id : RequestId} {params : Json} {place : Uri × Position}
      (h : Params.completionPlace params = .ok place) :
      Means (.request id "textDocument/completion" params) (.visited place.1)
  | hover {id : RequestId} {params : Json} {place : Uri × Position}
      (h : Params.place params = .ok place) :
      Means (.request id "textDocument/hover" params) (.visited place.1)
  | outline {id : RequestId} {params : Json} {uri : Uri} (h : Params.outlined params = .ok uri) :
      Means (.request id "textDocument/documentSymbol" params) (.visited uri)
  | opened {params : Json} {p : Params.Opened} (h : Params.opened params = .ok p) :
      Means (.notification "textDocument/didOpen" params) (.opened p.uri p.text p.version)
  | edited {params : Json} {p : Params.Edited} (h : Params.edited params = .ok p) :
      Means (.notification "textDocument/didChange" params) (.edited p.uri p.version p.edits)
  | saved {params : Json} {uri : Uri} (h : Params.saved params = .ok uri) :
      Means (.notification "textDocument/didSave" params) (.saved uri)
  | closed {params : Json} {uri : Uri} (h : Params.closed params = .ok uri) :
      Means (.notification "textDocument/didClose" params) (.closed uri)
  | watched {params : Json} {uris : List Uri} (h : Params.watched params = .ok uris) :
      Means (.notification "workspace/didChangeWatchedFiles" params) (.watched uris)
  | settings {params : Json} {payload : Json} (h : Params.settings params = .ok payload) :
      Means (.notification "workspace/didChangeConfiguration" params) (.settings payload)

/-- All that a message can be. -/
inductive Kind (message : Incoming) : Prop
  | response {id : RequestId} (h : message = .response id)
  | unknown {method : String} (h : message.Unknown method)
  | unreadable (h : message.Unreadable)
  | means {event : Event} (h : message.Means event)

theorem kind_of_read {α : Type} {message : Incoming} (params : Params.Read α) {event : α → Event}
    (hunreadable : ∀ reason, params = .error reason → message.Unreadable)
    (hmeans : ∀ value, params = .ok value → message.Means (event value)) : message.Kind := by
  cases h : params with
  | error reason => exact .unreadable (hunreadable reason h)
  | ok value => exact .means (hmeans value h)

theorem kind_request (id : RequestId) (method : String) (params : Json) :
    (Incoming.request id method params).Kind := by
  by_cases hknown : method ∈ requestMethods
  · simp only [requestMethods, List.mem_cons, List.not_mem_nil, or_false] at hknown
    rcases hknown with rfl | rfl | rfl
    · exact kind_of_read _ (fun _ => .completion) (fun _ => .completion)
    · exact kind_of_read _ (fun _ => .hover) (fun _ => .hover)
    · exact kind_of_read _ (fun _ => .outline) (fun _ => .outline)
  · exact .unknown (.request hknown)

theorem kind_notification (method : String) (params : Json) :
    (Incoming.notification method params).Kind := by
  by_cases hknown : method ∈ notificationMethods
  · simp only [notificationMethods, List.mem_cons, List.not_mem_nil, or_false] at hknown
    rcases hknown with rfl | rfl | rfl | rfl | rfl | rfl
    · exact kind_of_read _ (fun _ => .opened) (fun _ => .opened)
    · exact kind_of_read _ (fun _ => .edited) (fun _ => .edited)
    · exact kind_of_read _ (fun _ => .saved) (fun _ => .saved)
    · exact kind_of_read _ (fun _ => .closed) (fun _ => .closed)
    · exact kind_of_read _ (fun _ => .watched) (fun _ => .watched)
    · exact kind_of_read _ (fun _ => .settings) (fun _ => .settings)
  · exact .unknown (.notification hknown)

theorem kind (message : Incoming) : message.Kind := by
  cases message with
  | request id method params => exact kind_request id method params
  | response id => exact .response rfl
  | notification method params => exact kind_notification method params

end Incoming

/-- A message, and the file system at the time it comes. -/
structure Delivery where
  message : Incoming
  disk : FileTree

namespace Workspace

variable {F : Frontend}

/-- The message leaves everything as it is. Nothing is published, and the client is told only that a
request failed. -/
structure Declined (w : Workspace F) (d : Delivery) (code : Int) (text : String)
    (handled : Handled F) : Prop where
  workspace : handled.workspace = w
  disk : handled.disk = d.disk
  sent : Output.sent handled.outputs = d.message.asks?.toList.map (.failure · code text)

/-- The message is what the event is. What the event leads the workspace to publish is sent first,
and then the result of a request. -/
structure Heeded (w : Workspace F) (d : Delivery) (event : Event) (handled : Handled F) :
    Prop where
  workspace : handled.workspace = (w.meet ⟨d.disk, event⟩).workspace
  disk : handled.disk = (w.meet ⟨d.disk, event⟩).disk
  sent : ∃ value, Output.sent handled.outputs =
    (w.meet ⟨d.disk, event⟩).trace.published.map Outgoing.publication ++
      d.message.asks?.toList.map (.result · value)

/-- How one message is treated. -/
structure Conduct (w : Workspace F) (d : Delivery) (handled : Handled F) : Prop where
  /-- A request is answered once, behind all that is published because of it. -/
  answered : ∀ id, d.message.asks? = some id → ∃ (news : PublishSet) (answer : Outgoing),
    Output.sent handled.outputs = news.map Outgoing.publication ++ [answer] ∧
      answer.answers? = some id
  /-- Nothing else is answered. -/
  unanswered : d.message.asks? = none → ∃ news : PublishSet,
    Output.sent handled.outputs = news.map Outgoing.publication
  unknown : ∀ method, d.message.Unknown method →
    Declined w d methodNotFound ("Method not found: " ++ method) handled
  unreadable : d.message.Unreadable →
    ∃ reason, Declined w d invalidParams ("Invalid parameters: " ++ reason) handled
  heeded : ∀ event, d.message.Means event → Heeded w d event handled

section Requests

variable (w : Workspace F) (disk : FileTree) (id : RequestId) (params : Json)

theorem request_completion :
    w.request disk id "textDocument/completion" params =
      w.answerWith disk id "textDocument/completion" (Params.completionPlace params)
        fun place => w.answer disk id place.1 fun w =>
          Encode.completions (w.completions place.1 place.2) := by
  rw [request, if_pos rfl]

theorem request_hover :
    w.request disk id "textDocument/hover" params =
      w.answerWith disk id "textDocument/hover" (Params.place params)
        fun place => w.answer disk id place.1 fun w =>
          Encode.hover (w.hoverAt place.1 place.2) := by
  rw [request, if_neg (by decide), if_pos rfl]

theorem request_outline :
    w.request disk id "textDocument/documentSymbol" params =
      w.answerWith disk id "textDocument/documentSymbol" (Params.outlined params)
        fun uri => w.answer disk id uri fun w => Encode.outline (w.outlineOf uri) := by
  rw [request, if_neg (by decide), if_neg (by decide), if_pos rfl]

theorem request_of_unknown {method : String} (h : method ∉ Incoming.requestMethods) :
    w.request disk id method params =
      ⟨w, disk, [.log .debug ("Unhandled request: " ++ method),
        .send (.failure id methodNotFound ("Method not found: " ++ method))]⟩ := by
  simp only [Incoming.requestMethods, List.mem_cons, List.not_mem_nil, or_false, not_or] at h
  obtain ⟨hcompletion, hhover, houtline⟩ := h
  rw [request, if_neg hcompletion, if_neg hhover, if_neg houtline]

theorem event?_of_unknown {method : String} (h : method ∉ Incoming.notificationMethods) :
    event? method params = none := by
  simp only [Incoming.notificationMethods, List.mem_cons, List.not_mem_nil, or_false, not_or] at h
  simp only [event?, h, if_false]

end Requests

theorem receive_unknown (w : Workspace F) (d : Delivery) {method : String}
    (h : d.message.Unknown method) :
    Declined w d methodNotFound ("Method not found: " ++ method) (w.receive d.disk d.message) := by
  obtain ⟨message, disk⟩ := d
  cases h with
  | request h =>
    simp only [receive, request_of_unknown w disk _ _ h]
    exact ⟨rfl, rfl, rfl⟩
  | notification h =>
    simp only [receive, notification, event?_of_unknown _ h]
    exact ⟨rfl, rfl, rfl⟩

theorem answerWith_declined {α : Type} (w : Workspace F) {message : Incoming} (disk : FileTree)
    {id : RequestId} (method : String) {params : Params.Read α} (reply : α → Handled F)
    {reason : String} (hasks : message.asks? = some id) (h : params = .error reason) :
    Declined w ⟨message, disk⟩ invalidParams ("Invalid parameters: " ++ reason)
      (w.answerWith disk id method params reply) := by
  rw [h, answerWith]
  refine ⟨rfl, rfl, ?_⟩
  rw [hasks]
  rfl

theorem notification_declined (w : Workspace F) (disk : FileTree) {method : String} {params : Json}
    (reason : String) (h : event? method params = some (.error reason)) (code : Int)
    (text : String) :
    Declined w ⟨.notification method params, disk⟩ code text
      (w.notification disk method params) := by
  rw [notification, h]
  exact ⟨rfl, rfl, rfl⟩

theorem receive_unreadable (w : Workspace F) (d : Delivery) (h : d.message.Unreadable) :
    ∃ reason, Declined w d invalidParams ("Invalid parameters: " ++ reason)
      (w.receive d.disk d.message) := by
  obtain ⟨message, disk⟩ := d
  cases h with
  | completion h =>
    rw [receive, request_completion]
    exact ⟨_, answerWith_declined w disk _ _ rfl h⟩
  | hover h =>
    rw [receive, request_hover]
    exact ⟨_, answerWith_declined w disk _ _ rfl h⟩
  | outline h =>
    rw [receive, request_outline]
    exact ⟨_, answerWith_declined w disk _ _ rfl h⟩
  | @opened _ reason h =>
    exact ⟨reason, w.notification_declined disk reason (by simp [event?, h, Except.map]) _ _⟩
  | @edited _ reason h =>
    exact ⟨reason, w.notification_declined disk reason (by simp [event?, h, Except.map]) _ _⟩
  | @saved _ reason h =>
    exact ⟨reason, w.notification_declined disk reason (by simp [event?, h, Except.map]) _ _⟩
  | @closed _ reason h =>
    exact ⟨reason, w.notification_declined disk reason (by simp [event?, h, Except.map]) _ _⟩
  | @watched _ reason h =>
    exact ⟨reason, w.notification_declined disk reason (by simp [event?, h, Except.map]) _ _⟩
  | @settings _ reason h =>
    exact ⟨reason, w.notification_declined disk reason (by simp [event?, h, Except.map]) _ _⟩

/-- The line that is logged before an answer is no message to the client. -/
theorem prepareFor_eq (w : Workspace F) (disk : FileTree) (uri : Uri) :
    (w.prepareFor disk uri).workspace = (w.meet ⟨disk, .visited uri⟩).workspace ∧
      (w.prepareFor disk uri).disk = (w.meet ⟨disk, .visited uri⟩).disk ∧
      (w.prepareFor disk uri).trace.published =
        (w.meet ⟨disk, .visited uri⟩).trace.published := by
  rw [prepareFor, meet, handle]
  dsimp only
  split
  · exact ⟨rfl, rfl, rfl⟩
  · refine ⟨rfl, rfl, ?_⟩
    rw [Trace.published_append]
    exact List.append_nil _

theorem answerWith_heeded {α : Type} (w : Workspace F) {message : Incoming} (disk : FileTree)
    {id : RequestId} (method : String) {params : Params.Read α} {value : α} (uri : α → Uri)
    (reply : α → Workspace F → Json) (hasks : message.asks? = some id) (h : params = .ok value) :
    Heeded w ⟨message, disk⟩ (.visited (uri value))
      (w.answerWith disk id method params fun value =>
        w.answer disk id (uri value) (reply value)) := by
  obtain ⟨hworkspace, hfound, hpublished⟩ := w.prepareFor_eq disk (uri value)
  rw [h, answerWith]
  refine ⟨hworkspace, hfound, reply value (w.prepareFor disk (uri value)).workspace, ?_⟩
  rw [answer, Output.sent_append, Output.sent_ofEffect, hpublished, hasks]
  rfl

theorem notification_heeded (w : Workspace F) (disk : FileTree) {method : String} {params : Json}
    {event : Event} (h : event? method params = some (.ok event)) :
    Heeded w ⟨.notification method params, disk⟩ event (w.notification disk method params) := by
  rw [notification, h]
  refine ⟨rfl, rfl, .null, ?_⟩
  rw [Output.sent_append, Output.sent_ofEffect, Output.sent_reportLine]
  rfl

theorem receive_heeded (w : Workspace F) (d : Delivery) {event : Event}
    (h : d.message.Means event) : Heeded w d event (w.receive d.disk d.message) := by
  obtain ⟨message, disk⟩ := d
  cases h with
  | completion h =>
    rw [receive, request_completion]
    exact answerWith_heeded w disk _ Prod.fst _ rfl h
  | hover h =>
    rw [receive, request_hover]
    exact answerWith_heeded w disk _ Prod.fst _ rfl h
  | outline h =>
    rw [receive, request_outline]
    exact answerWith_heeded w disk _ id _ rfl h
  | opened h => exact w.notification_heeded disk (by simp [event?, h, Except.map])
  | edited h => exact w.notification_heeded disk (by simp [event?, h, Except.map])
  | saved h => exact w.notification_heeded disk (by simp [event?, h, Except.map])
  | closed h => exact w.notification_heeded disk (by simp [event?, h, Except.map])
  | watched h => exact w.notification_heeded disk (by simp [event?, h, Except.map])
  | settings h => exact w.notification_heeded disk (by simp [event?, h, Except.map])

/-- However a message is treated, the client gets diagnostics first, and then the answer to a
request and nothing else. -/
theorem receive_sent (w : Workspace F) (d : Delivery) :
    ∃ (news : PublishSet) (answer : RequestId → Outgoing),
      Output.sent (w.receive d.disk d.message).outputs =
        news.map Outgoing.publication ++ d.message.asks?.toList.map answer ∧
      ∀ id, (answer id).answers? = some id := by
  cases d.message.kind with
  | response h => exact ⟨[], (.result · .null), by rw [h]; rfl, fun _ => rfl⟩
  | unknown h => exact ⟨[], _, (w.receive_unknown d h).sent, fun _ => rfl⟩
  | unreadable h =>
    obtain ⟨reason, hdeclined⟩ := w.receive_unreadable d h
    exact ⟨[], _, hdeclined.sent, fun _ => rfl⟩
  | means h =>
    obtain ⟨value, hsent⟩ := (w.receive_heeded d h).sent
    exact ⟨_, _, hsent, fun _ => rfl⟩

theorem receive_conduct (w : Workspace F) (d : Delivery) :
    Conduct w d (w.receive d.disk d.message) := by
  obtain ⟨news, answer, hsent, hanswers⟩ := w.receive_sent d
  refine ⟨?_, ?_, fun _ => w.receive_unknown d, w.receive_unreadable d,
    fun _ => w.receive_heeded d⟩
  · intro id hasks
    rw [hasks] at hsent
    exact ⟨news, answer id, hsent, hanswers id⟩
  · intro hasks
    rw [hasks] at hsent
    exact ⟨news, hsent.trans (List.append_nil _)⟩

/-- The answers that one message leads to. -/
theorem receive_answers (w : Workspace F) (d : Delivery) :
    (Output.sent (w.receive d.disk d.message).outputs).filterMap Outgoing.answers? =
      d.message.asks?.toList := by
  obtain ⟨news, answer, hsent, hanswers⟩ := w.receive_sent d
  rw [hsent, List.filterMap_append, Outgoing.answers?_publications, List.nil_append]
  cases d.message.asks? with
  | none => rfl
  | some id => simp [hanswers]

end Workspace

namespace Server

/-- The server after messages have come. Between two of them the file system may change in any
way. -/
def after (options : ServerOptions) (stage : Stage) : List Delivery → Stage
  | [] => stage
  | d :: rest => after options (receive options stage d.disk d.message).stage rest

/-- All that the server does meanwhile. -/
def outputs (options : ServerOptions) (stage : Stage) : List Delivery → List Output
  | [] => []
  | d :: rest =>
      (receive options stage d.disk d.message).outputs ++
        outputs options (receive options stage d.disk d.message).stage rest

/-- No request to shut down is among the messages. -/
def Running (deliveries : List Delivery) : Prop :=
  ∀ d ∈ deliveries, ∀ id params, d.message ≠ .request id "shutdown" params

section Serving

variable (options : ServerOptions) (a : Agreement) (w : Workspace Scanning.frontend)

theorem receive_serving {d : Delivery}
    (hrunning : ∀ id params, d.message ≠ .request id "shutdown" params) :
    receive options (.serving a w) d.disk d.message =
      ⟨.serving a (w.receive d.disk d.message).workspace, (w.receive d.disk d.message).disk,
        (w.receive d.disk d.message).outputs⟩ := by
  rw [receive, serve]
  exact hrunning

/-- The server goes on serving. -/
theorem after_serving {past : List Delivery} (hrunning : Running past) :
    ∃ before, after options (.serving a w) past = .serving a before := by
  induction past generalizing w with
  | nil => exact ⟨w, rfl⟩
  | cons d rest ih =>
    obtain ⟨hnow, hlater⟩ := List.forall_mem_cons.mp hrunning
    rw [after, receive_serving options a w hnow]
    exact ih _ hlater

theorem outputs_answers {deliveries : List Delivery} (hrunning : Running deliveries) :
    (Output.sent (outputs options (.serving a w) deliveries)).filterMap Outgoing.answers? =
      deliveries.filterMap fun d => d.message.asks? := by
  induction deliveries generalizing w with
  | nil => rfl
  | cons d rest ih =>
    obtain ⟨hnow, hlater⟩ := List.forall_mem_cons.mp hrunning
    rw [outputs, receive_serving options a w hnow, Output.sent_append, List.filterMap_append,
      w.receive_answers, ih _ hlater]
    cases h : d.message.asks? with
    | none => simp [h]
    | some id => simp [h]

/-- Over every run of a server that is not asked to shut down, the client gets one answer to each of
its requests, in the order of the requests, and no other. Each message is treated on its own as
`Workspace.Conduct` says, by the workspace that the messages before it have led to. -/
theorem requests_answered_in_order (deliveries : List Delivery) (hrunning : Running deliveries) :
    (Output.sent (outputs options (.serving a w) deliveries)).filterMap Outgoing.answers? =
        (deliveries.filterMap fun d => d.message.asks?) ∧
      ∀ past d rest, deliveries = past ++ d :: rest →
        ∃ before handled, after options (.serving a w) past = .serving a before ∧
          receive options (.serving a before) d.disk d.message =
            ⟨.serving a handled.workspace, handled.disk, handled.outputs⟩ ∧
          Workspace.Conduct before d handled := by
  refine ⟨outputs_answers options a w hrunning, ?_⟩
  rintro past d rest rfl
  obtain ⟨hfirst, hothers⟩ := List.forall_mem_append.mp hrunning
  obtain ⟨before, hserving⟩ := after_serving options a w hfirst
  have hnow := receive_serving options a before (hothers d List.mem_cons_self)
  exact ⟨before, _, hserving, hnow, before.receive_conduct d⟩

end Serving

namespace AnswersWitness

def options : ServerOptions := ⟨none, none, .ofText "/tmp/out"⟩

def agreement : Agreement := ⟨none, .ofText "/tmp/out", true, []⟩

def fresh : Workspace Scanning.frontend :=
  .new Scanning.frontend (.new (.ofText "/tmp/out")) ⟨none, []⟩

/-- A document is opened, and the outline of another one is asked for. -/
def past : List Delivery :=
  [⟨.notification "textDocument/didOpen" (.object [("textDocument", .object
      [("uri", .text "file:///w/a.nf"), ("languageId", .text "nextflow"), ("version", .int 1),
        ("text", .text "\x7d")])]), .bare⟩,
    ⟨.request (.number 7) "textDocument/documentSymbol"
      (.object [("textDocument", .object [("uri", .text "file:///w/b.nf")])]), .bare⟩,
    ⟨.response (.number 3), .bare⟩]

/-- A request whose parameters are no record. -/
def broken : Delivery := ⟨.request (.text "x") "textDocument/hover" (.int 42), .bare⟩

def unheard : Delivery := ⟨.request (.number 8) "textDocument/rename" .null, .bare⟩

/-- Each of the three requests is answered, and the broken one leaves the workspace as it is. -/
theorem requests_answered_in_order_broken :
    Running (past ++ [broken, unheard]) ∧
      (Output.sent (outputs options (.serving agreement fresh)
        (past ++ [broken, unheard]))).filterMap Outgoing.answers? =
          [.number 7, .text "x", .number 8] ∧
      ∃ before outputs text,
        after options (.serving agreement fresh) past = .serving agreement before ∧
        receive options (.serving agreement before) broken.disk broken.message =
          ⟨.serving agreement before, .bare, outputs⟩ ∧
        Output.sent outputs = [.failure (.text "x") invalidParams text] := by
  have hrunning : Running (past ++ [broken, unheard]) := by
    simp [Running, past, broken, unheard]
  have hunread : broken.message.Unreadable := .hover rfl
  obtain ⟨hanswers, hconduct⟩ :=
    requests_answered_in_order options agreement fresh (past ++ [broken, unheard]) hrunning
  obtain ⟨before, handled, hserving, hnow, htreated⟩ := hconduct past broken [unheard] rfl
  obtain ⟨reason, hworkspace, hdisk, hsent⟩ := htreated.unreadable hunread
  rw [hworkspace, hdisk] at hnow
  exact ⟨hrunning, hanswers, before, handled.outputs, _, hserving, hnow, hsent⟩

end AnswersWitness

end Server

end PipelineServer
