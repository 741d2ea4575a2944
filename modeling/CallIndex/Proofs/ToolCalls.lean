import CallIndex.Proofs.Contributions
import CallIndex.Proofs.GroundedRuns
import CallIndex.Tool.Call

/-!
# Calls of tools

Whatever the name of a tool and its arguments, a call answers with one text, and a call that fails leaves the index as
it was.  Most tools only ask (`Asks`).  The three others ask first: for their arguments, and for the files of a
directory.  A pattern to exclude that is no text is met in the middle of a run over a directory, but then no file has
passed it.  So all that can fail does so before anything is stored (`FailsOr`), as long as the imports of all texts can
be resolved.

* `analyze_spec`, `clear_spec` and `index_spec`: what a tool has done when it has not failed.
* `failed_calls_keep_index`: what calls do in every run of tools.
-/

namespace CallIndex.Tool

open Workspace (Moves Grounded)

variable {α β : Type}

/-! ### Jobs that only ask -/

private theorem bind_apply (x : StateM Workspace α) (f : α → StateM Workspace β) (ws : Workspace) :
    (x >>= f) ws = f (x ws).1 (x ws).2 :=
  rfl

private theorem run_act (action : Action α) (ws : Workspace) :
    (act action).run ws = ((action.run ws).1.mapError .fault, (action.run ws).2) := by
  unfold act
  change (action.run >>= _) ws = _
  rw [bind_apply]
  cases (action.run ws).1 <;> rfl

/-- The job leaves the workspace as it is. -/
def Asks (j : Job α) : Prop :=
  ∀ ws, (j.run ws).2 = ws

namespace Asks

private theorem pure (a : α) : Asks (Pure.pure a) :=
  fun _ => rfl

private theorem lift (x : Except CallFault α) : Asks (liftM x : Job α) :=
  fun _ => rfl

private theorem get : Asks (MonadState.get : Job Workspace) :=
  fun _ => rfl

private theorem throw (fault : CallFault) : Asks (MonadExcept.throw fault : Job α) :=
  fun _ => rfl

private theorem ask (question : Workspace → Except Fault α) : Asks (Tool.ask question) := by
  intro ws
  rw [Tool.ask, run_act, Workspace.run_ask]

private theorem bind {x : Job α} {f : α → Job β} (hx : Asks x) (hf : ∀ a, Asks (f a)) : Asks (x >>= f) := by
  intro ws
  have hws := hx ws
  rw [Workspace.run_bind]
  rcases hrun : x.run ws with ⟨outcome, ws'⟩
  rw [hrun] at hws
  cases outcome with
  | error fault => exact hws
  | ok a => exact (hf a ws').trans hws

end Asks

variable (args : JsonValue)

private theorem asks_find : Asks (find args) := by
  refine (Asks.lift _).bind fun query => (Asks.lift _).bind fun kind => ?_
  split
  · exact .pure _
  · exact (Asks.lift _).bind fun query => (Asks.ask _).bind fun _ => .pure _

private theorem asks_calls : Asks (calls args) := by
  refine (Asks.lift _).bind fun className => (Asks.lift _).bind fun method => (Asks.lift _).bind fun method => ?_
  refine Asks.bind ?_ fun className => (Asks.ask _).bind fun _ => .pure _
  cases className with
  | none => exact .pure _
  | some v => exact (Asks.lift _).bind fun _ => .pure _

private theorem asks_trace : Asks (trace args) := by
  refine (Asks.lift _).bind fun entry => (Asks.lift _).bind fun depth => (Asks.lift _).bind fun withArguments =>
    (Asks.lift _).bind fun entry => Asks.get.bind fun ws => (Asks.lift _).bind fun depth =>
      (Asks.ask _).bind fun t => ?_
  dsimp only
  split
  · split
    · exact (Asks.throw _).bind fun _ => (Asks.lift _).bind fun _ => .pure _
    · exact (Asks.lift _).bind fun _ => .pure _
  · exact (Asks.lift _).bind fun _ => .pure _

private theorem asks_relations : Asks (relations args) :=
  (Asks.lift _).bind fun _ => (Asks.lift _).bind fun _ => (Asks.ask _).bind fun _ => .pure _

private theorem asks_importers : Asks (importers args) :=
  (Asks.lift _).bind fun _ => (Asks.lift _).bind fun _ => (Asks.ask _).bind fun _ => .pure _

private theorem asks_signature : Asks (signature args) :=
  (Asks.lift _).bind fun _ => (Asks.lift _).bind fun _ => (Asks.lift _).bind fun _ => (Asks.lift _).bind fun _ =>
    (Asks.lift _).bind fun _ => (Asks.lift _).bind fun _ => (Asks.ask _).bind fun _ => .pure _

private theorem asks_graph : Asks (graph args) :=
  Asks.get.bind fun _ => .pure _

private theorem asks_stats : Asks (stats args) :=
  Asks.get.bind fun _ => .pure _

/-! ### What the other tools do -/

/-- A job has failed and left the index as it was, or has done something. -/
def FailsOr (ws : Workspace) (done : JsonValue → Workspace → Prop) : Except CallFault JsonValue × Workspace → Prop
  | (.error _, ws') => ws'.index = ws.index
  | (.ok result, ws') => done result ws'

variable {history : List Sources} {ws : Workspace} {done : JsonValue → Workspace → Prop}

private theorem FailsOr.imp {done' : JsonValue → Workspace → Prop} {x : Except CallFault JsonValue × Workspace}
    (h : FailsOr ws done x) (himp : ∀ result ws', done result ws' → done' result ws') : FailsOr ws done' x := by
  obtain ⟨outcome, ws'⟩ := x
  cases outcome with
  | error fault => exact h
  | ok result => exact himp result ws' h

private theorem Asks.failsOr {j : Job JsonValue} (h : Asks j) (ws : Workspace) :
    FailsOr ws (fun _ ws' => ws' = ws) (j.run ws) := by
  have hws := h ws
  rcases hrun : j.run ws with ⟨outcome, ws'⟩
  rw [hrun] at hws
  cases outcome with
  | error fault => exact congrArg Workspace.index hws
  | ok result => exact hws

/-- Questions at the beginning of a job may make it fail. -/
private theorem Asks.bind_failsOr {x : Job α} {f : α → Job JsonValue} (hx : Asks x)
    (hf : ∀ a, (x.run ws).1 = .ok a → FailsOr ws done ((f a).run ws)) : FailsOr ws done ((x >>= f).run ws) := by
  have hws := hx ws
  rw [Workspace.run_bind]
  rcases hrun : x.run ws with ⟨outcome, ws'⟩
  rw [hrun] at hws hf
  cases outcome with
  | error fault => exact congrArg Workspace.index hws
  | ok a =>
    cases hws
    exact hf a rfl

/-- An action behind the questions of a job. -/
private theorem bind_act {action : Action α} {f : α → Job JsonValue} :
    (act action >>= f).run ws = match action.run ws with
      | (.ok a, ws') => (f a).run ws'
      | (.error e, ws') => (.error (.fault e), ws') := by
  rw [Workspace.run_bind, run_act]
  rcases action.run ws with ⟨outcome, ws'⟩
  cases outcome <;> rfl

private theorem path_of_pathOf {v : JsonValue} {path : String} (h : pathOf v = .ok path) : v = .string path := by
  cases v <;> cases h
  rfl

/-- The file that the arguments name has been analysed, and nothing else has changed. -/
def Analysed (ws : Workspace) (args : JsonValue) (ws' : Workspace) : Prop :=
  ∃ path key source, require args "path" = .ok (.string path) ∧ ws.keyOf path = .ok key ∧ ws.read key = .ok source ∧
    ws'.index.files.get? key = some (summaryAt key source.content) ∧ ws.index.SameOn (· ≠ key) ws'.index

/-- The file that the arguments name, if they name one, has been forgotten, and nothing else has changed. -/
def Forgotten (ws : Workspace) (args : JsonValue) (ws' : Workspace) : Prop :=
  ∀ v, value? args "path" = .ok (some v) → ∃ path key, v = .string path ∧ ws.keyOf path = .ok key ∧
    ws'.index.Lacks key ∧ ws.index.SameOn (· ≠ key) ws'.index

/-- What is known of the files that cannot be read has not changed. -/
def KeepsUnreadable (ws ws' : Workspace) : Prop :=
  ws.index.SameOn (fun key => !(ws.read key).isOk) ws'.index

theorem analyze_spec (h : Grounded history ws) :
    FailsOr ws (fun _ ws' => Analysed ws args ws') ((analyze args).run ws) := by
  refine (Asks.lift _).bind_failsOr fun v hv => (Asks.lift _).bind_failsOr fun path hpath => ?_
  have hv' : require args "path" = .ok v := hv
  obtain rfl := path_of_pathOf hpath
  rw [bind_act, Workspace.run_analyze]
  cases hkey : ws.keyOf path with
  | error fault => exact rfl
  | ok key =>
    dsimp only
    cases hread : ws.read key with
    | error cause => exact rfl
    | ok source =>
      obtain ⟨ix, hix, hfiles, -⟩ := h.stores (Workspace.absolute_of_keyOf hkey) hread
      have hindex : (ws.stored key source).index = ix := by rw [Workspace.index_stored, hix]
      dsimp only
      rw [hix]
      refine ⟨path, key, source, hv', hkey, hread, ?_, ?_⟩
      · rw [hindex, hfiles, Registry.get?_set_self]
      · exact Workspace.sameOn_stored h.ofAnalysed source (by simp)

theorem clear_spec (h : Grounded history ws) :
    FailsOr ws (fun _ ws' => Forgotten ws args ws') ((clear args).run ws) := by
  refine (Asks.lift _).bind_failsOr fun v hv => ?_
  have hv' : value? args "path" = .ok v := hv
  cases v with
  | none =>
    intro w hw
    rw [hv'] at hw
    cases hw
  | some v =>
    refine (Asks.lift _).bind_failsOr fun path hpath => ?_
    obtain rfl := path_of_pathOf hpath
    rw [bind_act, Workspace.run_forget_some]
    cases hkey : ws.keyOf path with
    | error fault => exact rfl
    | ok key =>
      obtain ⟨hdelete, hlacks⟩ := Index.lacks_delete h.ofAnalysed key
      dsimp only
      rw [hdelete]
      intro w hw
      rw [hv'] at hw
      cases hw
      exact ⟨path, key, rfl, hkey, hlacks, Index.sameOn_delete h.ofAnalysed (by simp)⟩

theorem index_spec (h : Grounded history ws) :
    FailsOr ws (fun _ ws' => KeepsUnreadable ws ws') ((index args).run ws) := by
  refine (Asks.lift _).bind_failsOr fun path hpath => (Asks.lift _).bind_failsOr fun exclude hexclude =>
    (Asks.lift _).bind_failsOr fun force hforce => (Asks.lift _).bind_failsOr fun path hpath =>
    (Asks.ask _).bind_failsOr fun _ _ => (Asks.lift _).bind_failsOr fun exclude hexclude => ?_
  rw [bind_act, Workspace.run_indexDirectoryBy]
  cases hfiles : ws.recognisedFiles (Path.ofString path) with
  | error fault => exact rfl
  | ok files =>
    have hunreadable : ∀ key text, ws.read key = .ok text → (!(ws.read key).isOk) = false := by
      intro key text hread
      rw [hread]
      rfl
    have hsame := Workspace.sameOn_indexFiles h.ofAnalysed hunreadable (Path.ofString path)
      ((ws.patternsFor []).map .text ++ exclude) force.isSome files.length 1 {} files
    dsimp only
    rcases hrun : (Workspace.indexFiles _ _ force.isSome files.length 1 {} files).run ws with ⟨outcome, ws'⟩
    rw [hrun] at hsame
    cases outcome with
    | error fault => exact h.index_of_indexFiles_error (Workspace.ne_nil_of_recognisedFiles hfiles) hrun
    | ok report => exact hsame

/-! ### Runs of tools -/

/-- What the job does is made of moves. -/
def MovesOn (j : Job α) : Prop :=
  ∀ ws, Moves ws (j.run ws).2

private theorem Asks.movesOn {j : Job α} (h : Asks j) : MovesOn j := by
  intro ws
  rw [h ws]
  exact .refl

private theorem MovesOn.bind {x : Job α} {f : α → Job β} (hx : MovesOn x) (hf : ∀ a, MovesOn (f a)) :
    MovesOn (x >>= f) := by
  intro ws
  have hws := hx ws
  rw [Workspace.run_bind]
  rcases hrun : x.run ws with ⟨outcome, ws'⟩
  rw [hrun] at hws
  cases outcome with
  | error fault => exact hws
  | ok a => exact hws.trans (hf a ws')

private theorem movesOn_act {action : Action α} (h : ∀ ws, Moves ws (action.run ws).2) : MovesOn (act action) := by
  intro ws
  rw [run_act]
  exact h ws

private theorem movesOn_analyze : MovesOn (analyze args) :=
  (Asks.lift _).movesOn.bind fun _ => (Asks.lift _).movesOn.bind fun path =>
    (movesOn_act (Workspace.moves_analyze path)).bind fun _ => (Asks.pure _).movesOn

private theorem movesOn_index : MovesOn (index args) :=
  (Asks.lift _).movesOn.bind fun _ => (Asks.lift _).movesOn.bind fun _ => (Asks.lift _).movesOn.bind fun force =>
    (Asks.lift _).movesOn.bind fun path => (Asks.ask _).movesOn.bind fun _ => (Asks.lift _).movesOn.bind fun exclude =>
    (movesOn_act (Workspace.moves_indexDirectoryBy path exclude force.isSome)).bind fun _ => (Asks.pure _).movesOn

private theorem movesOn_clear : MovesOn (clear args) := by
  refine (Asks.lift _).movesOn.bind fun v => ?_
  cases v with
  | none => exact (movesOn_act (Workspace.moves_forget none)).bind fun _ => (Asks.pure _).movesOn
  | some v =>
    exact (Asks.lift _).movesOn.bind fun path =>
      (movesOn_act (Workspace.moves_forget (some path))).bind fun _ => (Asks.pure _).movesOn

/-- Three tools change the index, and all other names are those of questions or of no tool. -/
private theorem job_cases (name : String) :
    (name = "callmap_analyze" ∧ job name args = analyze args) ∨ (name = "callmap_index" ∧ job name args = index args) ∨
      (name = "callmap_clear" ∧ job name args = clear args) ∨
      (name ∉ ["callmap_analyze", "callmap_index", "callmap_clear"] ∧ Asks (job name args)) := by
  by_cases hanalyze : name = "callmap_analyze"
  · subst hanalyze
    exact .inl ⟨rfl, rfl⟩
  by_cases hindex : name = "callmap_index"
  · subst hindex
    exact .inr (.inl ⟨rfl, rfl⟩)
  by_cases hclear : name = "callmap_clear"
  · subst hclear
    exact .inr (.inr (.inl ⟨rfl, rfl⟩))
  refine .inr (.inr (.inr ⟨by simp [hanalyze, hindex, hclear], ?_⟩))
  unfold job
  split
  · rename_i run hlookup
    obtain ⟨before, behind, hjobs, -⟩ := List.lookup_eq_some_iff.1 hlookup
    have hmem : (name, run) ∈ jobs := by
      rw [hjobs]
      simp
    simp only [jobs, List.mem_cons, Prod.mk.injEq, hanalyze, hindex, hclear, false_and, false_or, List.not_mem_nil,
      or_false] at hmem
    rcases hmem with ⟨-, rfl⟩ | ⟨-, rfl⟩ | ⟨-, rfl⟩ | ⟨-, rfl⟩ | ⟨-, rfl⟩ | ⟨-, rfl⟩ | ⟨-, rfl⟩ | ⟨-, rfl⟩
    · exact asks_find args
    · exact asks_calls args
    · exact asks_trace args
    · exact asks_relations args
    · exact asks_importers args
    · exact asks_signature args
    · exact asks_graph args
    · exact asks_stats args
  · exact .pure _

private theorem movesOn_job (name : String) : MovesOn (job name args) := by
  rcases job_cases args name with ⟨-, h⟩ | ⟨-, h⟩ | ⟨-, h⟩ | ⟨-, h⟩
  · rw [h]
    exact movesOn_analyze args
  · rw [h]
    exact movesOn_index args
  · rw [h]
    exact movesOn_clear args
  · exact h.movesOn

/-- The answer to a failed call. -/
def failureText (fault : CallFault) : String :=
  (JsonValue.object [("error", .string fault.message)]).compact

/-- A call is a job whose outcome is put in words; a fault that is not foreseen is noted in the log. -/
private theorem run_call (name : String) (ws : Workspace) :
    (call name args).run ws = match (job name args).run ws with
      | (.ok result, ws') => (result.pretty, ws')
      | (.error fault, ws') =>
        (failureText fault, if fault.isUnforeseen then ws'.logged ["Tool " ++ name ++ " failed"] else ws') := by
  unfold call
  change ((job name args).run >>= _) ws = _
  rw [bind_apply]
  rcases (job name args).run ws with ⟨outcome, ws'⟩
  cases outcome with
  | ok result => rfl
  | error fault =>
    dsimp only
    cases fault.isUnforeseen <;> rfl

private theorem moves_call (name : String) (ws : Workspace) : Moves ws ((call name args).run ws).2 := by
  have hjob := movesOn_job args name ws
  rw [run_call]
  rcases hrun : (job name args).run ws with ⟨outcome, ws'⟩
  rw [hrun] at hjob
  cases outcome with
  | ok result => exact hjob
  | error fault =>
    dsimp only
    split
    · exact hjob.logged _
    · exact hjob

/-- A workspace that is reached from one with an empty index by calls of tools, with any arguments, and by edits of the
sources, and the versions of the sources on the way, the present one first. -/
inductive Reached : List Sources → Workspace → Prop
  | fresh (ws : Workspace) (h : ws.index = {}) : Reached [ws.sources] ws
  | edit {history : List Sources} {ws : Workspace} (h : Reached history ws) (sources : Sources) :
      Reached (sources :: history) { ws with sources := sources }
  | call {history : List Sources} {ws : Workspace} (h : Reached history ws) (name : String) (args : JsonValue) :
      Reached history ((call name args).run ws).2

private theorem Reached.run (h : Reached history ws) : Workspace.Run history ws := by
  induction h with
  | fresh ws hempty => exact .fresh ws hempty
  | edit _ sources ih => exact ih.edit sources
  | call _ name args ih => exact ih.moves (moves_call args name _)

/-- The names of the tools that only ask. -/
def askingTools : List String := [
  "callmap_find", "callmap_calls", "callmap_trace", "callmap_relationships", "callmap_dependents", "callmap_signature",
  "callmap_graph", "callmap_stats"]

/-- What a call of the tool `name` does: it answers with `text` and leads to `ws'`. -/
structure CallEffect (ws : Workspace) (name : String) (args : JsonValue) (text : String) (ws' : Workspace) : Prop where
  /-- The answer is the result of the tool, or the message of a fault, and then the index is as before. -/
  answer : (∃ result, ((job name args).run ws).1 = .ok result ∧ text = result.pretty) ∨
    ∃ fault, ((job name args).run ws).1 = .error fault ∧ text = failureText fault ∧ ws'.index = ws.index
  unknown : name ∉ jobs.map (·.1) → ws'.index = ws.index
  asking : name ∈ askingTools → ws'.index = ws.index
  analyzed : name = "callmap_analyze" → ((job name args).run ws).1.isOk = true → Analysed ws args ws'
  cleared : name = "callmap_clear" → ((job name args).run ws).1.isOk = true → Forgotten ws args ws'
  indexed : name = "callmap_index" → ((job name args).run ws).1.isOk = true → KeepsUnreadable ws ws'

/-- What a job has done when it has not failed. -/
private theorem job_spec (h : Grounded history ws) (name : String) :
    FailsOr ws (fun _ ws' => (name = "callmap_analyze" → Analysed ws args ws') ∧
      (name = "callmap_clear" → Forgotten ws args ws') ∧ (name = "callmap_index" → KeepsUnreadable ws ws') ∧
      (name ∉ ["callmap_analyze", "callmap_index", "callmap_clear"] → ws' = ws)) ((job name args).run ws) := by
  rcases job_cases args name with ⟨rfl, hjob⟩ | ⟨rfl, hjob⟩ | ⟨rfl, hjob⟩ | ⟨hname, hasks⟩
  · rw [hjob]
    refine (analyze_spec args h).imp fun _ ws' hdone => ⟨fun _ => hdone, ?_, ?_, ?_⟩
    all_goals exact fun hname => absurd hname (by decide)
  · rw [hjob]
    refine (index_spec args h).imp fun _ ws' hdone => ⟨?_, ?_, fun _ => hdone, ?_⟩
    all_goals exact fun hname => absurd hname (by decide)
  · rw [hjob]
    refine (clear_spec args h).imp fun _ ws' hdone => ⟨?_, fun _ => hdone, ?_, ?_⟩
    all_goals exact fun hname => absurd hname (by decide)
  · simp only [List.mem_cons, List.not_mem_nil, or_false, not_or] at hname
    refine (hasks.failsOr ws).imp fun _ ws' hdone => ⟨?_, ?_, ?_, fun _ => hdone⟩
    · exact fun he => absurd he hname.1
    · exact fun he => absurd he hname.2.2
    · exact fun he => absurd he hname.2.1

/-- In every run of tools in which all imports can be resolved, a call that fails leaves the index as it was, whatever
its name and its arguments are; so does a call of no tool and of a tool that only asks.  Analysing and forgetting a file
change nothing of the other files, and indexing a directory changes nothing of the files that cannot be read. -/
theorem failed_calls_keep_index (h : Reached history ws) (hresolves : ws.ImportsResolve history) (name : String)
    (args : JsonValue) : CallEffect ws name args ((call name args).run ws).1 ((call name args).run ws).2 := by
  have hspec := job_spec args (h.run.grounded hresolves) name
  have hunknown : name ∉ jobs.map (·.1) → name ∉ ["callmap_analyze", "callmap_index", "callmap_clear"] := by
    have hsub : ["callmap_analyze", "callmap_index", "callmap_clear"] ⊆ jobs.map (·.1) := by
      simp [jobs]
    exact fun hname hmem => hname (hsub hmem)
  have hasking : name ∈ askingTools → name ∉ ["callmap_analyze", "callmap_index", "callmap_clear"] := by
    have hapart : ∀ asking ∈ askingTools, asking ∉ ["callmap_analyze", "callmap_index", "callmap_clear"] := by decide
    exact hapart name
  rw [run_call]
  rcases hrun : (job name args).run ws with ⟨outcome, ws'⟩
  rw [hrun] at hspec
  cases outcome with
  | ok result =>
    obtain ⟨hanalyzed, hcleared, hindexed, hother⟩ := hspec
    refine ⟨.inl ⟨result, by rw [hrun], rfl⟩, ?_, ?_, fun hname _ => hanalyzed hname, fun hname _ => hcleared hname,
      fun hname _ => hindexed hname⟩
    · exact fun hname => congrArg Workspace.index (hother (hunknown hname))
    · exact fun hname => congrArg Workspace.index (hother (hasking hname))
  | error fault =>
    have hindex : (if fault.isUnforeseen then ws'.logged ["Tool " ++ name ++ " failed"] else ws').index = ws.index := by
      split <;> exact hspec
    have hfailed : ((job name args).run ws).1.isOk = false := by
      rw [hrun]
      rfl
    refine ⟨.inr ⟨fault, by rw [hrun], rfl, hindex⟩, fun _ => hindex, fun _ => hindex, ?_, ?_, ?_⟩
    all_goals
      intro _ hok
      rw [hfailed] at hok
      cases hok

/-! ### A call that fails -/

/-- A call that analyses a file does to the index what the action does. -/
private theorem index_call_analyze {path : String} (h : require args "path" = .ok (.string path)) (ws : Workspace) :
    ((call "callmap_analyze" args).run ws).2.index = ((Workspace.analyze path).run ws).2.index := by
  have hjob : (job "callmap_analyze" args).run ws =
      (act (Workspace.analyze path) >>= fun s => (pure s.toJson : Job JsonValue)).run ws := by
    change (analyze args).run ws = _
    rw [analyze, h]
    rfl
  rw [run_call, hjob, bind_act]
  rcases (Workspace.analyze path).run ws with ⟨outcome, ws'⟩
  cases outcome with
  | ok s => rfl
  | error fault =>
    dsimp only
    split <;> rfl

/-- A workspace with one file. -/
def desk : Workspace :=
  { sources := .texts [("/a.py", "def f(): pass\n")] }

/-- The file of the workspace has been analysed. -/
def busyDesk : Workspace :=
  ((call "callmap_analyze" (.object [("path", .string "/a.py")])).run desk).2

private theorem desk_outline : (findingsIn "python" "def f(): pass\n".toList).outline =
    { functions := [⟨"f", 1, [], false⟩], declared := [(1, "f")] } := by
  decide +kernel

private theorem busyDesk_keys : busyDesk.index.symbols.entries.keys = ["/a.py:f"] := by
  have hpath : require (.object [("path", .string "/a.py")]) "path" = .ok (.string "/a.py") := rfl
  have hkey : desk.keyOf "/a.py" = .ok "/a.py" := rfl
  have hread : desk.read "/a.py" = .ok ⟨"def f(): pass\n", false⟩ := rfl
  have hlanguage : languageOf "/a.py" = "python" := rfl
  have hentries : (summaryAt "/a.py" "def f(): pass\n").entries = [⟨"/a.py", .ofFunction ⟨"f", 1, [], false⟩⟩] := by
    rw [summaryAt, summarize, hlanguage]
    simp only [FileSummary.entries, Extract.Findings.summary, desk_outline]
    rfl
  rw [busyDesk, index_call_analyze _ hpath, Workspace.symbols_analyze hkey hread]
  simp only [SymbolTable.registerFile, hentries, path_summaryAt]
  rfl

/-- A number in the place of a path is reported, and the file that has been analysed stays. -/
theorem busyDesk_misuse_keeps_index :
    Reached [desk.sources] busyDesk ∧ busyDesk.ImportsResolve [desk.sources] ∧
      ((call "callmap_analyze" (.object [("path", .int 1)])).run busyDesk).1 =
        failureText (.misuse (.asPath "int")) ∧
      ((call "callmap_analyze" (.object [("path", .int 1)])).run busyDesk).2.index = busyDesk.index ∧
      busyDesk.index.symbols.entries.keys = ["/a.py:f"] := by
  have hreached : Reached [desk.sources] busyDesk := (Reached.fresh desk rfl).call _ _
  have hresolves : busyDesk.ImportsResolve [desk.sources] := by
    apply Workspace.importsResolve_texts
    intro key content hmem
    obtain ⟨rfl, rfl⟩ := Prod.mk.inj (List.mem_singleton.1 hmem)
    have hlanguage : languageOf "/a.py" = "python" := rfl
    rw [hlanguage, desk_outline]
  have heffect := failed_calls_keep_index hreached hresolves "callmap_analyze" (.object [("path", .int 1)])
  have hfault : ((job "callmap_analyze" (.object [("path", .int 1)])).run busyDesk).1 =
      .error (.misuse (.asPath "int")) := rfl
  rcases heffect.answer with ⟨result, hresult, -⟩ | ⟨fault, hfailed, htext, hindex⟩
  · cases hfault.symm.trans hresult
  · cases hfault.symm.trans hfailed
    exact ⟨hreached, hresolves, htext, hindex, busyDesk_keys⟩

end CallIndex.Tool
