import TwinRun.Proofs.Pipeline

/-!
What a pipeline leaves in an artifact, wherever the artifact is.

Nothing is asked of the path but that it can be opened for writing and leads to no device. It may
lead to a file through links, the file may be in several places and hold anything, and the stages
may come to anything, each on its own.

`Pipeline.runVariant_captures`: the harness and the stages write one behind the other, so in the end
the artifact holds the output of the front end, and nothing else.
-/

namespace TwinRun

/-- In every world the lexer on a case file comes to `lexed`, and the parser to what `parse` says of
its input, started in the current directory. What they write is delivered, and they touch no file
themselves. Nothing is said of other stages. -/
structure Variant.Acts (starter : World.Starter) (mode : Mode) (v : Variant) (file : Path)
    (lexed : Except SystemError Finish) (parse : Bytes → Except SystemError Finish) : Prop where
  /-- The lexer has no input; with a parser behind it, it writes into a pipe. -/
  lexer : ∀ {launch w}, launch.stage = v.lexer.withArgs [file.bytes] → launch.input = [] →
    launch.directory = none → (launch.output = .pipe ↔ mode = .parser) →
    starter launch w = lexed.map fun f => ⟨f.writes, w.files, f.status⟩
  parser : mode = .parser → ∀ {launch w}, launch.stage = v.parser → launch.directory = none →
    launch.output ≠ .pipe →
    starter launch w = (parse launch.input).map fun f => ⟨f.writes, w.files, f.status⟩

/-- The state while an artifact is written that a path leads to from a directory. -/
def Capturing (d : Location) (artifact : Path) (h : Handle) (content : Bytes) (w : World) : Prop :=
  w.directory = d ∧ w.files.Reaching d artifact h content

theorem receiving_capturing (d : Location) (artifact : Path) (h : Handle) :
    Receiving h (Capturing d artifact h) where
  write := by
    rintro content w ⟨hdirectory, hreaching⟩ more
    obtain ⟨files, hwrite, hreaching'⟩ := hreaching.write more
    exact ⟨files, hwrite, hdirectory, hreaching'⟩
  alike := by
    rintro content w w' ⟨hdirectory, hreaching⟩ halike
    exact ⟨halike.directory.trans hdirectory, halike.files ▸ hreaching⟩

namespace Pipeline

variable {starter : World.Starter} {mode : Mode} {v : Variant} {file : Path}
  {lexed : Except SystemError Finish} {parse : Bytes → Except SystemError Finish}

theorem stagesCome_of_acts (hacts : v.Acts starter mode file lexed parse)
    (I : Bytes → World → Prop) (h : Handle) : StagesCome starter I h mode v file lexed parse where
  lexer := fun hmode => fun _ => hacts.lexer rfl rfl rfl (by rw [hmode]; simp)
  feeder := fun hmode => fun _ => hacts.lexer rfl rfl rfl (by rw [hmode]; simp)
  parser := fun hmode => fun _ => hacts.parser hmode rfl rfl (by simp)

/-- **What a pipeline leaves in its artifact.** Whatever the two stages come to, and whatever the
artifact held before, a front end is run, and its artifact holds what the lexer wrote to either
stream, or the message that stands for it; with a parser, it holds the message alone of a lexer that
could not be started, and then what the parser wrote to either stream on what the lexer passed on,
or the message that stands for that. -/
theorem runVariant_captures (filter : Log.Filter) (overflow : Overflow)
    (hacts : v.Acts starter mode file lexed parse)
    {artifact : Path} {w : World} (hw : w.Sound)
    (hcreate : ∃ r, w.files.create w.directory artifact = .ok r)
    (hdevice : ∀ x device, w.files.find w.directory artifact true ≠ .ok (x, .device device)) :
    ∃ o w', runVariant (World.hostOf starter filter overflow) file mode v artifact w = .ok o w' ∧
      w'.files.read w'.directory artifact = .ok (outputOf mode v file lexed parse) := by
  obtain ⟨⟨files, h⟩, hcreate⟩ := hcreate
  have hopened : Artifact.create (World.hostOf starter filter overflow) artifact w
      = .ok h { w with files } :=
    Operation.orFault_of_ok (World.create_of_ok hcreate) _
  have hstart : Capturing w.directory artifact h [] { w with files } :=
    ⟨rfl, Files.reaching_of_create hw.files hw.directory hcreate hdevice⟩
  obtain ⟨o, w', hrun, hdirectory, hreaching⟩ := runVariant_of_create
    (receiving_capturing w.directory artifact h) (stagesCome_of_acts hacts _ h) hopened hstart
  exact ⟨o, w', hrun, by rw [hdirectory]; exact hreaching.read⟩

/-! ### A lexer that cannot be started -/

/-- The lexer is not there; the parser complains between two lines of output, and crashes. -/
def unstartedPrograms : Programs := fun stage input =>
  if stage.program = Variant.conventionalCandidate.lexer.program then .error .notFound
  else .ok ⟨[(.out, .ofString "("), (.err, .ofString "!"), (.out, input), (.out, .ofString ")")],
    .ofSignal 11⟩

/-- The artifact is a link to a file that is in two places and holds something. -/
def unstartedScene : World where
  files :=
    { nodes :=
        [([.ofString "temp"], .directory),
          ([.ofString "temp", .ofString "a_my.out"], .link (.ofString "../kept")),
          ([.ofString "kept"], .file 0 (.ofString "earlier output") false),
          ([.ofString "other"], .file 0 (.ofString "earlier output") false)]
      nextIdentity := 1 }
  directory := []

theorem outputOf_unstarted :
    outputOf .parser .conventionalCandidate (.ofString "cases/a.cl") (.error .notFound)
        (unstartedPrograms Variant.conventionalCandidate.parser) = Bytes.ofString
      "frontdiff: failed to start 'src/lexer': No such file or directory (os error 2)\n(!)" := by
  have hcode : Decimal.text 2 = "2" := by
    rw [Decimal.text, Decimal.digits, if_pos (by decide)]
    decide
  have hreason : SystemError.describe 2 = "No such file or directory" := by decide
  have hmessage : startFailureMessage
      (Variant.conventionalCandidate.lexer.withArgs [(Path.ofString "cases/a.cl").bytes]) .notFound
        = "frontdiff: failed to start 'src/lexer': No such file or directory (os error 2)" := by
    unfold startFailureMessage
    rw [SystemError.notFound, SystemError.message, hcode, hreason]
    decide
  simp only [outputOf, leftBehind, captured, hmessage]
  decide

theorem runVariant_captures_unstarted :
    ∃ o w', runVariant (World.hostOf (World.starterOf unstartedPrograms) .silent)
        (.ofString "cases/a.cl") .parser .conventionalCandidate (.ofString "temp/a_my.out")
        unstartedScene = .ok o w' ∧
      w'.files.read w'.directory (.ofString "temp/a_my.out") = .ok (Bytes.ofString
        "frontdiff: failed to start 'src/lexer': No such file or directory (os error 2)\n(!)") := by
  have hacts : Variant.Acts (World.starterOf unstartedPrograms) .parser .conventionalCandidate
      (.ofString "cases/a.cl") (.error .notFound) (unstartedPrograms
        Variant.conventionalCandidate.parser) :=
    { lexer := fun hstage _ _ _ => by rw [World.starterOf, hstage]; rfl
      parser := fun _ _ _ hstage _ _ => by rw [World.starterOf, hstage] }
  have hfind : unstartedScene.files.find unstartedScene.directory (.ofString "temp/a_my.out") true
      = .ok ([.ofString "kept"], .file 0 (.ofString "earlier output") false) := by decide
  have hsound : unstartedScene.Sound := by decide
  obtain ⟨o, w', hrun, hread⟩ := runVariant_captures .silent .wraps hacts hsound ⟨_, rfl⟩
    (fun x device h => by rw [hfind] at h; cases h)
  exact ⟨o, w', hrun, by rw [hread, outputOf_unstarted]⟩

end Pipeline

end TwinRun
