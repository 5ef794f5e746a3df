import DebugServer.Proofs.Location.Translator
import DebugServer.Proofs.Session.Traced

/-!
# Breakpoints of a session

A request for breakpoints asks the engine once, and the response has one entry for each breakpoint
that the client wants, whatever number of results the engine gives. A location that the client was
shown for a frame is requested where the frame is.
-/

namespace DebugServer

namespace Session

variable {σ : Type} {engine : Engine σ} {s : Session σ}

theorem length_fitResults (n : Nat) (results : List ResolvedBreakpoint) :
    (fitResults n results).length = n := by
  simp only [fitResults, List.length_append, List.length_take, List.length_replicate]
  omega

theorem getElem?_fitResults {n i : Nat} (h : i < n) (results : List ResolvedBreakpoint) :
    (fitResults n results)[i]? = some (results[i]?.getD .invalid) := by
  unfold fitResults
  by_cases hgiven : i < results.length
  · rw [List.getElem?_append_left (by rw [List.length_take]; omega), List.getElem?_take_of_lt h,
      List.getElem?_eq_getElem hgiven, Option.getD_some]
  · have hmissing : results[i]? = none := List.getElem?_eq_none (by omega)
    rw [List.getElem?_append_right (by rw [List.length_take]; omega), hmissing, Option.getD_none]
    apply List.getElem?_replicate_of_lt
    rw [List.length_take]
    omega

theorem resolve_fst (target : BreakpointTarget) (requests : List BreakpointRequest) :
    (s.resolve engine target requests).1 =
      .body (.breakpoints ⟨s.translator.reports
        (fitResults requests.length (engine.setBreakpoints target requests s.engine).1)⟩) := by
  unfold resolve
  dsimp only
  split <;> rfl

theorem resolve_snd_engine (target : BreakpointTarget) (requests : List BreakpointRequest) :
    (s.resolve engine target requests).2.engine =
      (engine.setBreakpoints target requests s.engine).2 := by
  unfold resolve
  dsimp only
  split <;> rfl

theorem setBreakpoints_eq_resolve {a : SetBreakpointsArguments} {path : String} {program : Program}
    (hpath : a.source.path = some path) (hprogram : s.program = some program) :
    s.setBreakpoints engine a =
      s.resolve engine (s.translator.target path program) (s.translator.lineRequests a) := by
  simp only [setBreakpoints, hpath, hprogram]

theorem resolve_outbox (target : BreakpointTarget) (requests : List BreakpointRequest) :
    (s.resolve engine target requests).2.live.outbox = s.live.outbox := by
  unfold resolve
  dsimp only
  split <;> rfl

/-- Breakpoints are answered with one entry for each request to the engine. -/
theorem replies_setBreakpoints (engine : Engine σ) {request : Request} {a : SetBreakpointsArguments}
    {path : String} {program : Program} (hopen : s.live.outbox.IsOpen)
    (hphase : s.phase = .configuring ∨ s.phase = .running) (hprogram : s.program = some program)
    (hcommand : request.command = "setBreakpoints")
    (hdecode : request.decodeArguments SetBreakpointsArguments.format = .ok a)
    (hpath : a.source.path = some path) :
    let target := s.translator.target path program
    let requests := s.translator.lineRequests a
    s.Replies engine request (.body (.breakpoints ⟨s.translator.reports
        (fitResults requests.length (engine.setBreakpoints target requests s.engine).1)⟩)) ∧
      (s.process engine request).2.engine =
        (engine.setBreakpoints target requests s.engine).2 := by
  intro target requests
  obtain ⟨record, hreply⟩ :=
    replyTo_of_launched engine (c := .setBreakpoints) hphase hcommand (by decide) (by decide)
  have hresolve : (s.log record).setBreakpoints engine a =
      (s.log record).resolve engine target requests :=
    setBreakpoints_eq_resolve hpath hprogram
  simp only [perform, withArguments, hdecode, answered, hresolve, resolve_fst] at hreply
  have hprocess := process_of_replyTo hreply (by rw [resolve_outbox]; exact hopen)
  refine ⟨⟨_, hreply, hprocess⟩, ?_⟩
  rw [hprocess]
  exact resolve_snd_engine _ _

/-- An entry of the response is made from the result at its place, or from none. -/
theorem eq_report_of_getElem? {t : Translator} {n i : Nat} {results : List ResolvedBreakpoint}
    {report : BreakpointReport} (h : (t.reports (fitResults n results))[i]? = some report) :
    report = t.report (results[i]?.getD .invalid) := by
  have hi := (List.getElem?_eq_some_iff.mp h).1
  rw [Translator.reports, List.length_map, length_fitResults] at hi
  rw [Translator.reports, List.getElem?_map, getElem?_fitResults hi, Option.map_some] at h
  exact (Option.some.inj h).symm

/-- The engine is asked once, in the compiled program if the path is its alias and at the path
otherwise, for each breakpoint that the client wants. The response has one entry for each of them:
the position that the engine gave, in the client's numbers, or nothing but that there is none. What
the engine resolves where it was asked to comes back under the client's own numbers, but for the
greatest one where the client counts from zero. -/
theorem breakpoints_line_up (engine : Engine σ) {s : Session (Traced σ)} {request : Request}
    {a : SetBreakpointsArguments} {path : String} {program : Program}
    (hopen : s.live.outbox.IsOpen) (hphase : s.phase = .configuring ∨ s.phase = .running)
    (hprogram : s.program = some program) (hcommand : request.command = "setBreakpoints")
    (hdecode : request.decodeArguments SetBreakpointsArguments.format = .ok a)
    (hpath : a.source.path = some path) :
    let numbering := s.translator.numbering
    ∃ target requests reports,
      let results := (engine.setBreakpoints target requests s.engine.state).1
      s.Replies engine.traced request (.body (.breakpoints ⟨reports⟩)) ∧
      (s.process engine.traced request).2.engine =
        ⟨(engine.setBreakpoints target requests s.engine.state).2,
          s.engine.calls ++ [.control (.setBreakpoints target requests)]⟩ ∧
      (s.translator.programAlias = some path → target = .program program.id) ∧
      (s.translator.programAlias ≠ some path → target = .path path) ∧
      List.Forall₂ numbering.Asks a.wanted requests ∧ reports.length = a.wanted.length ∧
      (∀ {i : Nat} {report : BreakpointReport}, reports[i]? = some report →
        numbering.Tells results[i]? report) ∧
      ∀ {i : Nat} {b : SourceBreakpoint} {column : Option Int64} {condition : Option String}
        {position : Position} {report : BreakpointReport}, a.wanted[i]? = some b →
        requests[i]? = some (.line position.line column condition) →
        results[i]? = some (.resolved position) → reports[i]? = some report →
          report.line = some (Numbering.returned numbering.linesFromOne b.line) ∧
          (column = some position.column →
            report.column = b.column.map (Numbering.returned numbering.columnsFromOne)) := by
  intro numbering
  obtain ⟨hreplies, hengine⟩ := replies_setBreakpoints engine.traced hopen hphase hprogram hcommand
    hdecode hpath
  have hasks : List.Forall₂ numbering.Asks a.wanted (s.translator.lineRequests a) :=
    s.translator.asks_lineRequests a
  refine ⟨_, _, _, hreplies, hengine, fun h => if_pos h, fun h => if_neg h, hasks, ?_, ?_, ?_⟩
  · rw [Translator.reports, List.length_map, length_fitResults, hasks.length_eq]
  · intro i report hreport
    rw [eq_report_of_getElem? hreport]
    exact s.translator.tells_report _
  · intro i b column condition position report hwanted hrequest hresult hreport
    rw [Translator.lineRequests_eq, List.getElem?_map, hwanted, Option.map_some,
      Option.some.injEq, BreakpointRequest.line.injEq] at hrequest
    obtain ⟨hline, hcolumn, -⟩ := hrequest
    have hfound : report = s.translator.report (.resolved position) :=
      (eq_report_of_getElem? hreport).trans
        (congrArg (fun result : Option _ => s.translator.report (result.getD .invalid)) hresult)
    rw [hfound]
    obtain ⟨htold, htoldColumn⟩ := s.translator.report_of_requested hline.symm
    exact ⟨htold, fun h => htoldColumn (hcolumn.trans h)⟩

/-- Two breakpoints in the program, of which an engine that gives one result resolves the first. -/
theorem breakpoints_line_up_short :
    let settings : Settings := ⟨none, false, some "/work/main.go", ⟨10, 10⟩, 10, 10, none⟩
    let script : Script := { Script.default with resultCount := some 1 }
    let greeting : Request :=
      ⟨1, "request", "initialize", .obj [("linesStartAt1", .bool false)]⟩
    let launch : Request := ⟨2, "request", "launch", .obj [("program", .str "main.go")]⟩
    let request : Request := ⟨3, "request", "setBreakpoints",
      .obj [("breakpoints", .arr [.obj [("line", .num (.int 9223372036854775807))],
          .obj [("column", .num (.int 4)), ("line", .num (.int 7))]]),
        ("source", .obj [("path", .str "/work/main.go")])]⟩
    let s := (new settings (⟨.new script .empty, []⟩ : Traced ScriptedState)).after
      scriptedEngine.traced [.request launch, .greeting greeting]
    (s.live.outbox.IsOpen ∧ (s.phase = .configuring ∨ s.phase = .running) ∧
      s.translator = ⟨⟨false, true⟩, some "/work/main.go"⟩) ∧
    ∃ target requests reports,
      s.Replies scriptedEngine.traced request (.body (.breakpoints ⟨reports⟩)) ∧
      (s.process scriptedEngine.traced request).2.engine.calls =
        s.engine.calls ++ [.control (.setBreakpoints target requests)] ∧
      (∃ id, target = .program id) ∧ reports.length = 2 ∧
      reports[1]? = some ⟨false, none, none⟩ := by
  intro settings script greeting launch request s
  have hopen : s.live.outbox.IsOpen := ⟨by decide +kernel, by decide +kernel⟩
  have hphase : s.phase = .configuring ∨ s.phase = .running := by decide +kernel
  have htranslator : s.translator = ⟨⟨false, true⟩, some "/work/main.go"⟩ := by decide +kernel
  obtain ⟨program, hprogram⟩ : ∃ program, s.program = some program :=
    Option.isSome_iff_exists.mp (by decide +kernel)
  have hdecode : request.decodeArguments SetBreakpointsArguments.format =
      .ok ⟨⟨none, some "/work/main.go"⟩,
        some [⟨9223372036854775807, none, none⟩, ⟨7, some 4, none⟩], none⟩ := rfl
  obtain ⟨target, requests, reports, hreplies, hengine, htarget, -, -, hlength, htells, -⟩ :=
    breakpoints_line_up scriptedEngine hopen hphase hprogram rfl hdecode rfl
  have hcount : s.engine.state.script.resultCount = some 1 := by decide +kernel
  have hone : (scriptedEngine.setBreakpoints target requests s.engine.state).1.length ≤ 1 := by
    simp only [scriptedEngine, ScriptedState.setBreakpoints, ScriptedState.record, hcount,
      List.length_append, List.length_take, List.length_replicate]
    omega
  obtain ⟨last, hlast⟩ : ∃ last, reports[1]? = some last :=
    ⟨_, List.getElem?_eq_getElem (by rw [hlength]; decide)⟩
  have htold := htells hlast
  rw [List.getElem?_eq_none hone] at htold
  refine ⟨⟨hopen, hphase, htranslator⟩, target, requests, reports, hreplies, by rw [hengine],
    ⟨_, htarget (by rw [htranslator])⟩, hlength, ?_⟩
  cases htold with
  | unverified => exact hlast

/-- What is asked for where a frame was shown is asked for where the frame is. -/
theorem getElem?_lineRequests_of_shown {t : Translator} {a : SetBreakpointsArguments}
    {wanted : List SourceBreakpoint} {i : Nat} {condition : Option String} {position : Position}
    (hwanted : a.breakpoints = some wanted)
    (hshown : wanted[i]? = some ⟨t.numbering.lineToClient position.line,
      some (t.numbering.columnToClient position.column), condition⟩)
    (hline : position.line ≠ Int64.minValue) (hcolumn : position.column ≠ Int64.minValue) :
    (t.lineRequests a)[i]? = some (.line position.line (some position.column) condition) := by
  have hback : t.numbering.lineToEngine (t.numbering.lineToClient position.line) = position.line :=
    Numbering.toEngine_toClient _ _ hline
  have hbackColumn : t.numbering.columnToEngine (t.numbering.columnToClient position.column) =
      position.column :=
    Numbering.toEngine_toClient _ _ hcolumn
  rw [Translator.lineRequests, hwanted]
  simp only [List.getElem?_map, hshown, Option.map_some, hback, hbackColumn]

/-- A client that takes a breakpoint to the line and column of a frame, at the path that the frame
was shown at, has it requested where the engine has the frame: in the compiled program if this has
an alias and the frame is one of its own, or lies in a file of that name, and otherwise in the file
of the frame. Only the least numbers are not shown as they are. A frame that has no position is
shown nowhere. -/
theorem shown_location_requested (engine : Engine σ) (t : Translator) (program : Program)
    (frame : Frame) (id : Int) :
    let shown := t.stackFrame id frame program
    (∀ position, frame.position = some position → position.line ≠ Int64.minValue →
      position.column ≠ Int64.minValue →
      ∃ source path, shown.source = some source ∧ source.path = some path ∧
        ∀ {s : Session (Traced σ)} {a : SetBreakpointsArguments} {wanted : List SourceBreakpoint}
          {i : Nat} {condition : Option String}, s.translator = t → s.program = some program →
          a.source.path = some path → a.breakpoints = some wanted →
          wanted[i]? = some ⟨shown.line, some shown.column, condition⟩ →
          ∃ target requests,
            (s.setBreakpoints engine.traced a).2.engine.calls =
              s.engine.calls ++ [.control (.setBreakpoints target requests)] ∧
            requests[i]? = some (.line position.line (some position.column) condition) ∧
            (t.programAlias.isSome ∧ frame.program = some program.id ∨
              t.programAlias = some position.file → target = .program program.id) ∧
            (¬ (t.programAlias.isSome ∧ frame.program = some program.id ∨
              t.programAlias = some position.file) → target = .path position.file)) ∧
    (frame.position = none → shown.source = none ∧ shown.line = 0 ∧ shown.column = 0) := by
  intro shown
  constructor
  · intro position hposition hline hcolumn
    have hshown : shown = ⟨id, frame.name,
        some (Translator.sourceAt (t.shownPath frame program position)),
        t.numbering.lineToClient position.line, t.numbering.columnToClient position.column⟩ :=
      t.stackFrame_of_position hposition id
    refine ⟨_, t.shownPath frame program position, by rw [hshown], rfl, ?_⟩
    intro s a wanted i condition htranslator hprogram hpath hbreakpoints hwanted
    subst htranslator
    rw [hshown] at hwanted
    refine ⟨_, _, ?_, getElem?_lineRequests_of_shown hbreakpoints hwanted hline hcolumn,
      Translator.target_shownPath_of_program _, ?_⟩
    · rw [setBreakpoints_eq_resolve hpath hprogram, resolve_snd_engine]
      rfl
    · intro hfile
      have hother : s.translator.programAlias ≠ some position.file := fun h => hfile (.inr h)
      rw [Translator.shownPath_of_file _ hfile]
      exact if_neg hother
  · intro hposition
    simp [shown, Translator.stackFrame, hposition]

/-- A frame of the program, shown at the alias to a client that counts from zero. -/
theorem shown_location_requested_alias :
    let t : Translator := ⟨⟨false, false⟩, some "/work/main.go"⟩
    let program : Program := ⟨⟨7⟩, "main.go"⟩
    let frame : Frame := ⟨"main.main", some ⟨"<input>", 5, 3⟩, some ⟨7⟩, []⟩
    let settings : Settings := ⟨none, false, none, ⟨10, 10⟩, 10, 10, none⟩
    let s : Session (Traced ScriptedState) :=
      { new settings ⟨.new .default .empty, []⟩ with translator := t, program := some program }
    let a : SetBreakpointsArguments :=
      ⟨⟨none, some "/work/main.go"⟩, some [⟨1, none, none⟩, ⟨4, some 2, none⟩], none⟩
    (frame.position = some ⟨"<input>", 5, 3⟩ ∧ (5 : Int64) ≠ Int64.minValue ∧
      (3 : Int64) ≠ Int64.minValue ∧ (t.stackFrame 1 frame program).line = 4 ∧
      (t.stackFrame 1 frame program).column = 2) ∧
    ∃ target requests,
      (s.setBreakpoints scriptedEngine.traced a).2.engine.calls =
        [.control (.setBreakpoints target requests)] ∧
      requests[1]? = some (.line 5 (some 3) none) ∧ target = .program ⟨7⟩ := by
  intro t program frame settings s a
  have hposition : frame.position = some ⟨"<input>", 5, 3⟩ := rfl
  have hline : (5 : Int64) ≠ Int64.minValue := by decide
  have hcolumn : (3 : Int64) ≠ Int64.minValue := by decide
  have hshown : (t.stackFrame 1 frame program).source =
      some ⟨some "main.go", some "/work/main.go"⟩ := by decide +kernel
  obtain ⟨source, path, hsource, hpath, hrequested⟩ :=
    (shown_location_requested scriptedEngine t program frame 1).1 _ hposition hline hcolumn
  rw [hshown] at hsource
  cases hsource
  cases hpath
  obtain ⟨target, requests, hcalls, hrequest, hprogram, -⟩ :=
    hrequested (s := s) (a := a) (i := 1) rfl rfl rfl rfl rfl
  exact ⟨⟨hposition, hline, hcolumn, by decide, by decide⟩, target, requests, hcalls, hrequest,
    hprogram (.inl ⟨rfl, rfl⟩)⟩

end Session

end DebugServer
