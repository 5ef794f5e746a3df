import DebugServer.Engine.Scripted
import DebugServer.Framing.Writer
import DebugServer.Proofs.Framing.Pieces
import DebugServer.Proofs.Session.Responses

/-!
# Conversations

A server reads a stream in pieces, with events and output of the debuggee anywhere in between. To
each request that it hears one response is sent, in order, and every message that is sent has the
next number. Here reading goes well and every message is JSON; the session may end before the
stream does.
-/

namespace DebugServer

/-- What arrives at a server: bytes of the client, or something that the engine does. -/
inductive Arrival (σ : Type) where
  /-- A piece of the stream or, after reading, a whole message. -/
  | bytes (bytes : List UInt8)
  | event (event : EngineEvent)
  | output (stream : OutputStream) (text : String)
  /-- The engine goes on by itself. -/
  | progress (change : σ → σ)

variable {σ : Type}

namespace Arrival

def bytes? : Arrival σ → Option (List UInt8)
  | .bytes b => some b
  | _ => none

/-- The bytes of all pieces. -/
def stream (arrivals : List (Arrival σ)) : List UInt8 :=
  (arrivals.filterMap bytes?).flatten

/-- The arrivals with whole messages in place of pieces, each where it ends. -/
def read : FrameReader → List (Arrival σ) → List (Arrival σ)
  | r, [] => r.close.1.map .bytes
  | r, .bytes piece :: rest =>
    match r.feed piece [] with
    | (messages, .ok r) => messages.map .bytes ++ read r rest
    | (messages, .error _) => messages.map .bytes
  | r, arrival :: rest => arrival :: read r rest

theorem filterMap_bytes (messages : List (List UInt8)) :
    (messages.map (bytes (σ := σ))).filterMap bytes? = messages := by
  rw [List.filterMap_map]
  exact List.filterMap_some

theorem close_of_readPieces {r : FrameReader} {messages : List (List UInt8)}
    (h : r.readPieces [stream ([] : List (Arrival σ))] = (messages, none)) :
    r.close = (messages, none) := by
  simpa [stream, FrameReader.readPieces, FrameReader.feed, Prod.ext_iff] using h

/-- Whole messages take the place of the bytes, and everything else arrives as it does. -/
theorem read_spec {arrivals : List (Arrival σ)} {r : FrameReader} {messages : List (List UInt8)}
    (h : r.readPieces [stream arrivals] = (messages, none)) :
    (read r arrivals).filterMap bytes? = messages ∧
      (read r arrivals).filter (·.bytes?.isNone) = arrivals.filter (·.bytes?.isNone) := by
  induction arrivals generalizing r messages with
  | nil =>
    simp only [read, close_of_readPieces h]
    exact ⟨filterMap_bytes messages, by simp [bytes?]⟩
  | cons arrival rest ih =>
    cases arrival with
    | bytes piece =>
      obtain ⟨first, r', later, hfeed, hrest, rfl⟩ := FrameReader.readPieces_append h
      obtain ⟨hlater, hbackground⟩ := ih hrest
      simp only [read, hfeed]
      constructor
      · rw [List.filterMap_append, filterMap_bytes, hlater]
      · rw [List.filter_append, hbackground]
        simp [bytes?]
    | event | output | progress =>
      obtain ⟨hmessages, hbackground⟩ := ih h
      exact ⟨hmessages, congrArg (List.cons _) hbackground⟩

end Arrival

/-- The session after something that the engine does. -/
def Session.background (s : Session σ) : Arrival σ → Session σ
  | .bytes _ => s
  | .event event => (s.deliver event).2
  | .output stream text => (s.print stream text).2
  | .progress change => { s with engine := change s.engine }

/-- The request in a message, if it is one that can be decoded. -/
def requestIn? (bytes : List UInt8) : Option Request :=
  match Json.parse Json.nestingLimit bytes with
  | .error _ => none
  | .ok message => (Request.ofMessage? message).toOption.join

namespace Server

/-- The requests in whole messages, up to and including the first that ends the session. -/
def heard (engine : Engine σ) (s : Session σ) : List (Arrival σ) → List Request
  | [] => []
  | .bytes bytes :: rest =>
    match requestIn? bytes with
    | none => heard engine (take engine s bytes).2 rest
    | some request =>
      request :: if s.ends engine request then []
        else heard engine (take engine s bytes).2 rest
  | arrival :: rest => heard engine (s.background arrival) rest

def advance (engine : Engine σ) (server : Server σ) : Arrival σ → Server σ
  | .bytes piece => server.receive engine piece
  | arrival => { server with session := server.session.background arrival }

/-- Serves a whole input that comes in pieces, while the engine does what it does. -/
def serve (engine : Engine σ) (session : Session σ) (arrivals : List (Arrival σ)) : Server σ :=
  (receiveEnd engine (arrivals.foldl (advance engine) (new session))).shutdown engine

/-- Without anything from the engine this is how a server runs. -/
theorem serve_pieces (engine : Engine σ) (session : Session σ) (pieces : List (List UInt8)) :
    serve engine session (pieces.map .bytes) = run engine session pieces := by
  simp only [serve, run, List.foldl_map]
  rfl

variable {engine : Engine σ} {s : Session σ}

theorem take_sends (engine : Engine σ) (h : s.live.outbox.IsOpen) {bytes : List UInt8}
    (hjson : ∃ message, Json.parse Json.nestingLimit bytes = .ok message) :
    ∃ flow s', take engine s bytes = (.ok flow, s') ∧
      s.Sends s' ((requestIn? bytes).toList.map Request.key) ∧
      (flow = .stop ↔ ∃ request, requestIn? bytes = some request ∧
        s.ends engine request = true) := by
  obtain ⟨message, hmessage⟩ := hjson
  unfold take requestIn?
  simp only [hmessage]
  cases hrequest : Request.ofMessage? message with
  | error e => exact ⟨.proceed, _, rfl, .refl _, by simp [Except.toOption]⟩
  | ok found =>
  cases found with
  | none => exact ⟨.proceed, _, rfl, .refl _, by simp [Except.toOption]⟩
  | some request =>
    obtain ⟨flow, s', hanswer, hsends, hflow⟩ := Session.answer_sends engine h request
    refine ⟨flow, s', ?_, hsends, ?_⟩
    · simp only [hanswer]
      rfl
    · simpa [Except.toOption] using hflow

theorem heard_bytes {s' : Session σ} {flow : Flow} {bytes : List UInt8}
    (htake : take engine s bytes = (.ok flow, s'))
    (hflow : flow = .stop ↔ ∃ request, requestIn? bytes = some request ∧
      s.ends engine request = true) (rest : List (Arrival σ)) :
    heard engine s (.bytes bytes :: rest) =
      (requestIn? bytes).toList ++ if flow = .stop then [] else heard engine s' rest := by
  simp only [heard, htake]
  cases hrequest : requestIn? bytes with
  | none =>
    have hproceed : flow ≠ .stop := by simp [hflow, hrequest]
    simp [hproceed]
  | some request =>
    have hends : flow = .stop ↔ s.ends engine request = true := by simpa [hrequest] using hflow
    simp [hends]

theorem background_sends (h : s.live.outbox.IsOpen) (arrival : Arrival σ) :
    s.Sends (s.background arrival) [] := by
  cases arrival with
  | bytes => exact .refl s
  | progress => exact .refl s
  | event event =>
    simp only [Session.background, Session.deliver]
    split
    · exact .refl s
    · obtain ⟨_, hhandle⟩ := LiveState.handle_of_isOpen h event
      rw [hhandle]
      refine ⟨[event.letter], rfl, ?_⟩
      cases event <;> rfl
    · exact .refl s
  | output stream text =>
    obtain ⟨letters, houtput, hprint⟩ := Session.print_of_isOpen h stream text
    simp only [Session.background, hprint]
    refine ⟨letters, rfl, List.filterMap_eq_nil_iff.mpr fun letter hletter => ?_⟩
    have hname := houtput letter hletter
    cases letter with
    | response => cases hname
    | event => rfl

/-- Taking whole messages is hearing them: one response goes out to each request, until one of them
ends reading. -/
theorem takeAll_hears (engine : Engine σ) {messages : List (List UInt8)} {server : Server σ}
    (ho : server.session.live.outbox.IsOpen) (hreading : server.ending = none)
    (hjson : ∀ bytes ∈ messages, ∃ message, Json.parse Json.nestingLimit bytes = .ok message) :
    ∃ requests : List Request,
      server.session.Sends (takeAll engine messages server).session (requests.map Request.key) ∧
      ∀ rest, heard engine server.session (messages.map .bytes ++ rest) =
        requests ++ if (takeAll engine messages server).ending = none
          then heard engine (takeAll engine messages server).session rest else [] := by
  induction messages generalizing server with
  | nil => exact ⟨[], .refl _, fun rest => by simp [takeAll, hreading]⟩
  | cons bytes messages ih =>
    obtain ⟨flow, s', htake, hsends, hflow⟩ := take_sends engine ho (hjson bytes List.mem_cons_self)
    have hlater := fun b hb => hjson b (List.mem_cons_of_mem bytes hb)
    cases flow with
    | stop =>
      refine ⟨(requestIn? bytes).toList, ?_, fun rest => ?_⟩
      · simpa only [takeAll, htake] using hsends
      · rw [List.map_cons, List.cons_append, heard_bytes htake hflow]
        simp [takeAll, htake]
    | proceed =>
      have hnext : ({ server with session := s' } : Server σ).session.live.outbox.IsOpen :=
        hsends.isOpen ho
      obtain ⟨requests, hrest, hheard⟩ := ih hnext hreading hlater
      refine ⟨(requestIn? bytes).toList ++ requests, ?_, fun rest => ?_⟩
      · simp only [takeAll, htake, List.map_append]
        exact hsends.trans hrest
      · rw [List.map_cons, List.cons_append, heard_bytes htake hflow]
        simp only [takeAll, htake, List.append_assoc, ← hheard rest]
        rfl

theorem session_endWith (server : Server σ) (ending : Except ServerError Unit) :
    (server.endWith ending).session = server.session := by
  unfold endWith
  split <;> rfl

/-- A server that has stopped reading sends no more responses. -/
theorem ended_sends (engine : Engine σ) (arrivals : List (Arrival σ)) {server : Server σ}
    (ho : server.session.live.outbox.IsOpen) (hended : server.ending ≠ none) :
    server.session.Sends
      (receiveEnd engine (arrivals.foldl (advance engine) server)).session [] := by
  have hsome : server.ending.isSome = true := Option.isSome_iff_ne_none.mpr hended
  induction arrivals generalizing server with
  | nil =>
    simp only [List.foldl_nil, receiveEnd, hsome, if_true]
    exact .refl _
  | cons arrival rest ih =>
    have hbackground := background_sends (s := server.session) ho arrival
    cases arrival with
    | bytes piece =>
      have hreceive : server.advance engine (.bytes piece) = server := by
        simp only [advance, receive, hsome, if_true]
      rw [List.foldl_cons, hreceive]
      exact ih ho hended hsome
    | event | output | progress =>
      exact hbackground.trans (ih (hbackground.isOpen ho) hended hsome)

/-- A server that reads without errors answers every request that it hears. -/
theorem arrivals_sends (engine : Engine σ) (arrivals : List (Arrival σ)) {server : Server σ}
    {messages : List (List UInt8)} (ho : server.session.live.outbox.IsOpen)
    (hreading : server.ending = none)
    (hread : server.reader.readPieces [Arrival.stream arrivals] = (messages, none))
    (hjson : ∀ bytes ∈ messages, ∃ message, Json.parse Json.nestingLimit bytes = .ok message) :
    server.session.Sends (receiveEnd engine (arrivals.foldl (advance engine) server)).session
      ((heard engine server.session (Arrival.read server.reader arrivals)).map Request.key) := by
  induction arrivals generalizing server messages with
  | nil =>
    have hclose := Arrival.close_of_readPieces hread
    obtain ⟨requests, hsends, hheard⟩ := takeAll_hears engine ho hreading hjson
    have hall := hheard []
    simp only [List.append_nil, heard, ite_self] at hall
    simp only [Arrival.read, hclose, List.foldl_nil, receiveEnd, hreading, Option.isSome_none,
      Bool.false_eq_true, if_false, session_endWith]
    rw [hall]
    exact hsends
  | cons arrival rest ih =>
    have hbackground := background_sends ho arrival
    cases arrival with
    | bytes piece =>
      obtain ⟨first, r, later, hfeed, hrest, rfl⟩ := FrameReader.readPieces_append hread
      obtain ⟨requests, hsends, hheard⟩ := takeAll_hears engine ho hreading
        fun bytes hbytes => hjson bytes (List.mem_append_left later hbytes)
      have hreceive : server.advance engine (.bytes piece) =
          { takeAll engine first server with reader := r } := by
        simp only [advance, receive, hreading, Option.isSome_none, Bool.false_eq_true, if_false,
          hfeed]
      have hopen : ({ takeAll engine first server with reader := r } :
        Server σ).session.live.outbox.IsOpen := hsends.isOpen ho
      have hlater := fun bytes hbytes => hjson bytes (List.mem_append_right first hbytes)
      simp only [Arrival.read, hfeed, List.foldl_cons, hreceive, hheard, List.map_append]
      by_cases hending : (takeAll engine first server).ending = none
      · rw [if_pos hending]
        exact hsends.trans (ih hopen hending hrest hlater)
      · rw [if_neg hending]
        exact hsends.trans (ended_sends engine rest hopen hending)
    | event | output | progress =>
      exact hbackground.trans (ih (hbackground.isOpen ho) hreading hread hjson)

theorem shutdown_outbox (engine : Engine σ) (s : Session σ) :
    (s.shutdown engine).live.outbox = s.live.outbox := by
  by_cases hp : s.program = none
  · rw [Session.shutdown_of_none hp]
  · obtain ⟨journal, hs⟩ := Session.shutdown_of_some engine hp
    rw [hs]

/-- What is heard are requests of the client in their order, from the first one on. -/
theorem heard_isPrefix (engine : Engine σ) (s : Session σ) (arrivals : List (Arrival σ)) :
    heard engine s arrivals <+: (arrivals.filterMap Arrival.bytes?).filterMap requestIn? := by
  induction arrivals generalizing s with
  | nil => exact List.nil_prefix
  | cons arrival rest ih =>
    cases arrival with
    | event | output | progress => exact ih _
    | bytes bytes =>
      have hrest := ih (take engine s bytes).2
      have hcons : (Arrival.bytes bytes :: rest).filterMap Arrival.bytes? =
          bytes :: rest.filterMap Arrival.bytes? := rfl
      rw [hcons]
      simp only [heard]
      cases hrequest : requestIn? bytes with
      | none =>
        rw [List.filterMap_cons_none hrequest]
        exact hrest
      | some request =>
        rw [List.filterMap_cons_some hrequest]
        apply (List.prefix_cons_inj request).mpr
        split
        · exact List.nil_prefix
        · exact hrest

/-- However a stream of messages is cut into pieces and whatever the engine does in between: one
response is sent to each request that is heard, with its number and command and in its order, and
no other response; all that is sent is numbered from one on. -/
theorem one_response_each (engine : Engine σ) (settings : Settings) (state : σ)
    (arrivals : List (Arrival σ)) (messages : List (List UInt8))
    (hread : FrameReader.start.readPieces [Arrival.stream arrivals] = (messages, none))
    (hjson : ∀ bytes ∈ messages, ∃ message, Json.parse Json.nestingLimit bytes = .ok message) :
    let arrived := Arrival.read .start arrivals
    let requests := heard engine (.new settings state) arrived
    let sent := (serve engine (.new settings state) arrivals).session.live.outbox.queue.toList
    arrived.filterMap Arrival.bytes? = messages ∧
      arrived.filter (·.bytes?.isNone) = arrivals.filter (·.bytes?.isNone) ∧
      requests <+: messages.filterMap requestIn? ∧
      sent.filterMap (·.letter.answered?) = requests.map Request.key ∧
      sent.map (·.seq) = List.range' 1 sent.length := by
  intro arrived requests sent
  obtain ⟨hmessages, hbackground⟩ := Arrival.read_spec hread
  have hopen : (new (Session.new settings state)).session.live.outbox.IsOpen := ⟨rfl, rfl⟩
  obtain ⟨letters, houtbox, hanswers⟩ := arrivals_sends engine arrivals hopen rfl hread hjson
  have hsent : sent = (Outbox.empty.acceptAll letters).queue.toList := by
    simp only [sent, serve, shutdown, Session.withOutbox, Outbox.close, shutdown_outbox]
    rw [houtbox]
    rfl
  have hnumbered : (Outbox.empty.acceptAll letters).IsNumbered :=
    Outbox.IsNumbered.acceptAll ⟨rfl, rfl⟩ letters
  refine ⟨hmessages, hbackground, ?_, ?_, ?_⟩
  · rw [← hmessages]
    exact heard_isPrefix engine _ arrived
  · have hletters : sent.map (·.letter) = letters := by
      rw [hsent]
      exact Outbox.letters_acceptAll Outbox.empty letters
    have hmap : sent.filterMap (·.letter.answered?) =
        (sent.map (·.letter)).filterMap Letter.answered? := by
      rw [List.filterMap_map]
      rfl
    rw [hmap, hletters]
    exact hanswers
  · rw [hsent]
    exact hnumbered.2

theorem exists_eq_ok_of_isOk {ε α : Type} {result : Except ε α} (h : result.isOk = true) :
    ∃ a, result = .ok a := by
  cases result with
  | error e => cases h
  | ok a => exact ⟨a, rfl⟩

/-- A launch is answered, then a thread starts and prints something while the rest of the stream is
on its way. The first message is no request. -/
theorem one_response_each_disconnect :
    let messages := ([⟨1, "event", "output", .null⟩, ⟨2, "request", "launch", .null⟩,
      ⟨3, "request", "threads", .null⟩, ⟨4, "request", "disconnect", .null⟩] : List Request).map
        fun request => Text.toBytes request.toJson.write
    let stream := messages.flatMap frame
    let arrivals : List (Arrival ScriptedState) := [.bytes (stream.take 200),
      .event (.threadStarted mainThread), .bytes ((stream.drop 200).take 60),
      .output .stdout "ready\n", .bytes (stream.drop 260)]
    let settings : Settings := ⟨some (.text "package main"), false, none, ⟨10, 10⟩, 10, 10, none⟩
    let state := ScriptedState.new .default .empty
    let requests := heard scriptedEngine (.new settings state) (Arrival.read .start arrivals)
    let served := serve scriptedEngine (.new settings state) arrivals
    let sent := served.session.live.outbox.queue.toList
    FrameReader.start.readPieces [Arrival.stream arrivals] = (messages, none) ∧
      (∀ bytes ∈ messages, ∃ json, Json.parse Json.nestingLimit bytes = .ok json) ∧
      requests.map Request.key = [(2, "launch"), (3, "threads"), (4, "disconnect")] ∧
      sent.filterMap (·.letter.answered?) = requests.map Request.key ∧
      sent.map (·.letter.answered?.isSome) = [false, true, false, true, false, true] ∧
      sent.map (·.seq) = [1, 2, 3, 4, 5, 6] := by
  intro messages stream arrivals settings state requests served sent
  have hruns : FrameReader.start.readPieces [Arrival.stream arrivals] = (messages, none) ∧
      (∀ bytes ∈ messages, (Json.parse Json.nestingLimit bytes).isOk) ∧
      requests.map Request.key = [(2, "launch"), (3, "threads"), (4, "disconnect")] ∧
      sent.map (·.letter.answered?.isSome) = [false, true, false, true, false, true] := by
    decide +kernel
  obtain ⟨hread, hparsed, hheard, hanswers⟩ := hruns
  have hjson : ∀ bytes ∈ messages, ∃ json, Json.parse Json.nestingLimit bytes = .ok json :=
    fun bytes hbytes => exists_eq_ok_of_isOk (hparsed bytes hbytes)
  obtain ⟨-, -, -, hanswered, hnumbered⟩ :=
    one_response_each scriptedEngine settings state arrivals messages hread hjson
  have hlength : sent.length = 6 := by simpa using congrArg List.length hanswers
  refine ⟨hread, hjson, hheard, hanswered, hanswers, ?_⟩
  rw [hnumbered, hlength]
  rfl

end Server

end DebugServer
