import TwinRun.Program
import TwinRun.Proofs.Config.Reading
import TwinRun.Proofs.Config.Rearranged
import TwinRun.Proofs.System.Host
import TwinRun.Proofs.Text.Decoding
import TwinRun.System.World

/-!
The configuration in force: the conventional values, then the file, then the flags.

* `Yaml.Holds`: a text that is a document which spells a tree.
* `Config.parse_of_holds`: parsing such a text gives what the tree describes, or fails.
* `Program.Reads`: the configuration file that is read.
* `Program.resolve_layers`: what the flags say goes over what the file describes.
-/

namespace TwinRun

open Yaml (Node Document Spells)

/-! ### Documents -/

/-- A text that is not blank holds one document, which spells a tree. No more of its aliases are
followed than may be. -/
inductive Yaml.Holds (text : String) (t : Node) : Prop
  | intro {d : Document} {root : Node} {k : Nat}
      (hcontent : (Blank.trim text.toList).isEmpty = false)
      (hdocument : Document.ofText text = .ok d) (hroot : d.root = some root)
      (hspells : Spells d.anchors k root t)
      (haliases : k ≤ Config.aliasesPerStep * d.size)

namespace Config

variable {text : String} {t : Node}

theorem ofYaml?_eq_some (h : Yaml.Holds text t) (ht : t.Tree) {c : Config} :
    ofYaml? text = some c ↔ Config.Described t c := by
  obtain ⟨hcontent, hdocument, hroot, hspells, haliases⟩ := h
  rw [ofYaml?, hcontent, hdocument, if_neg Bool.false_ne_true]
  change ofDocument? _ = some c ↔ _
  rw [ofDocument?, hroot]
  exact (gives_readConfig hspells ht).run' haliases c

/-- Parsing a document gives what it describes, and fails if it describes nothing. -/
theorem parse_of_holds (h : Yaml.Holds text t) (ht : t.Tree) (source : Option Path) :
    (∀ c, parse source text = .ok c ↔ Config.Described t c) ∧
      ∀ f, parse source text = .error f ↔
        f = .config (.invalid source) ∧ ¬ ∃ c, Config.Described t c := by
  simp only [← ofYaml?_eq_some h ht, parse]
  cases ofYaml? text with
  | none => simp [eq_comm]
  | some c => simp

end Config

/-! ### The file -/

namespace Program

open CommandLine (Arguments)

variable {σ : Type} {host : Host σ} {args : Arguments} {s s' : σ} {path : Path} {t : Node}

/-- The configuration file: the one that is named, or else the one that is taken by default, if it
is there. -/
def configFile? (host : Host σ) (args : Arguments) (s : σ) : Option Path :=
  args.config.or (if host.isFile defaultFile s then some defaultFile else none)

/-- The configuration file holds a tree. Reading it leaves the system as `s'`. -/
inductive Reads (host : Host σ) (args : Arguments) (s : σ) (path : Path) (t : Node) (s' : σ) : Prop
  | intro {bytes : Bytes} {text : String} (hfile : configFile? host args s = some path)
      (hread : host.read path s = .ok bytes s') (htext : bytes.text? = some text)
      (hholds : Yaml.Holds text t)

/-- The configuration is read from the configuration file, if there is one. -/
theorem base_eq (host : Host σ) (args : Arguments) (s : σ) :
    base host args s = match configFile? host args s with
      | some path => load host path s
      | none => .ok .conventional s := by
  cases hconfig : args.config with
  | some path => simp only [base, configFile?, hconfig, Option.some_or]
  | none =>
      have hask : Host.ask (host.isFile defaultFile) s = .ok (host.isFile defaultFile s) s := rfl
      simp only [base, configFile?, hconfig, Option.none_or]
      rw [bind_of_ok hask]
      cases host.isFile defaultFile s <;> rfl

/-- Loading a file that is a text is parsing this text. -/
theorem load_of_text {bytes : Bytes} {text : String} (hread : host.read path s = .ok bytes s')
    (htext : bytes.text? = some text) :
    load host path s = match Config.parse (some path) text with
      | .ok c => .ok c s'
      | .error f => .error f s' := by
  rw [load, Operation.orFault_bind_of_ok hread, htext]
  dsimp only
  cases Config.parse (some path) text <;> rfl

/-- A configuration file that holds a tree gives what the tree describes, or a fault. -/
theorem base_of_reads (h : Reads host args s path t s') (ht : t.Tree) :
    (∀ c s₁, base host args s = .ok c s₁ ↔ s₁ = s' ∧ Config.Described t c) ∧
      ∀ f s₁, base host args s = .error f s₁ ↔
        s₁ = s' ∧ f = .config (.invalid (some path)) ∧ ¬ ∃ c, Config.Described t c := by
  obtain @⟨bytes, text, hfile, hread, htext, hholds⟩ := h
  obtain ⟨hok, herror⟩ := Config.parse_of_holds hholds ht (some path)
  rw [base_eq, hfile]
  dsimp only
  rw [load_of_text hread htext]
  refine ⟨fun c s₁ => ?_, fun f s₁ => ?_⟩
  · rw [← hok]
    cases Config.parse (some path) text <;> grind
  · rw [← herror]
    cases Config.parse (some path) text <;> grind

/-! ### The layers -/

/-- What the flags say goes over what a configuration says. -/
theorem resolve_eq_ok {c : Config} :
    resolve host args s = .ok c s' ↔ ∃ below, base host args s = .ok below s' ∧
      c = { below with
        mode := args.mode.getD below.mode
        scratchDir := args.scratch.getD below.scratchDir
        contextLines := args.context.getD below.contextLines } := by
  rw [resolve, bind_eq_ok]
  constructor
  · rintro ⟨below, s₁, hbase, ⟨⟩⟩
    exact ⟨below, hbase, rfl⟩
  · rintro ⟨below, hbase, rfl⟩
    exact ⟨below, s', hbase, rfl⟩

theorem resolve_eq_error {f : Fault} :
    resolve host args s = .error f s' ↔ base host args s = .error f s' := by
  rw [resolve, bind_eq_error]
  constructor
  · rintro (h | ⟨_, _, -, ⟨⟩⟩)
    exact h
  · exact .inl

/-- Without a configuration file the flags go over the conventional values. -/
theorem resolve_of_no_file (h : configFile? host args s = none) :
    resolve host args s = .ok { Config.conventional with
      mode := args.mode.getD .parser
      scratchDir := args.scratch.getD (.ofString "temp")
      contextLines := args.context.getD 3 } s :=
  resolve_eq_ok.mpr ⟨.conventional, by rw [base_eq, h], rfl⟩

/-- **Defaults, then the file, then the flags, key by key.** Where a configuration file is read and
holds a tree, the configuration in force is what the tree describes, each key that is left out
having its own default, and mode, scratch directory and number of context lines are those of the
flags where these are given. Where the tree describes no configuration, its file is refused. And
neither depends on the order of keys at any level or on further strings under keys without
meaning. -/
theorem resolve_layers (hreads : Reads host args s path t s') (ht : t.Tree) :
    (∀ c s₁, resolve host args s = .ok c s₁ ↔ s₁ = s' ∧ ∃ described,
      Config.Described t described ∧
      c = { described with
        mode := args.mode.getD described.mode
        scratchDir := args.scratch.getD described.scratchDir
        contextLines := args.context.getD described.contextLines }) ∧
    (∀ f s₁, resolve host args s = .error f s₁ ↔
      s₁ = s' ∧ f = .config (.invalid (some path)) ∧ ¬ ∃ c, Config.Described t c) ∧
    ∀ {τ : Type} {other : Host τ} {u u' : τ} {path' : Path} {t' : Node},
      Relation.ReflTransGen (Rearranges .config) t t' → Reads other args u path' t' u' →
      ∀ c, resolve host args s = .ok c s' ↔ resolve other args u = .ok c u' := by
  -- Stated for any host, as the last part compares two.
  have hresolve : ∀ {τ : Type} {host : Host τ} {s s' : τ} {path : Path} {t : Node},
      Reads host args s path t s' → t.Tree → ∀ c s₁, resolve host args s = .ok c s₁ ↔
        s₁ = s' ∧ ∃ described, Config.Described t described ∧
        c = { described with
          mode := args.mode.getD described.mode
          scratchDir := args.scratch.getD described.scratchDir
          contextLines := args.context.getD described.contextLines } := by
    intro τ host s s' path t hreads ht c s₁
    simp only [resolve_eq_ok, (base_of_reads hreads ht).1, and_assoc, exists_and_left]
  refine ⟨hresolve hreads ht, fun f s₁ => ?_, ?_⟩
  · rw [resolve_eq_error, (base_of_reads hreads ht).2]
  · intro τ other u u' path' t' hrearranges hreads' c
    have hsame := Config.described_of_rearranges hrearranges ht
    rw [hresolve hreads ht, hresolve hreads' (hsame c).1]
    simp only [(hsame _).2, true_and]

/-! ### A file that is written in two ways -/

def sceneWith (text : String) : World where
  files :=
    { nodes := [([.ofString "frontdiff.yaml"], .file 0 (.ofString text) false)]
      nextIdentity := 1 }
  directory := []

/-- A host on which no stage can be started. -/
def idleHost : Host World := World.hostOf (fun _ _ => .error .notFound) .silent

def plainText : String := "\"mode\": \"parser\"\n\"corpus\":\n  \"general\": \"all\"\n"

/-- The same the other way round, with keys without meaning in between. -/
def annotatedText : String :=
  "\"note\": \"x\"\n\"corpus\":\n  \"dir\": \"y\"\n  \"general\": \"all\"\n\"mode\": \"parser\"\n"

def quoted (s : String) : Node := .scalar s .doubleQuoted none

def plainTree : Node :=
  .mapping [(quoted "mode", quoted "parser"),
    (quoted "corpus", .mapping [(quoted "general", quoted "all")] none)] none

def annotatedTree : Node :=
  .mapping [(quoted "note", quoted "x"),
    (quoted "corpus", .mapping [(quoted "dir", quoted "y"), (quoted "general", quoted "all")] none),
    (quoted "mode", quoted "parser")] none

theorem plainTree_tree : plainTree.Tree := by
  refine .mapping (by decide) (by decide) ?_ none
  simp only [List.forall_mem_cons, List.not_mem_nil, IsEmpty.forall_iff, implies_true, and_true]
  refine ⟨.scalar _ _ _, .mapping (by decide) (by decide) ?_ none⟩
  simp only [List.forall_mem_cons, List.not_mem_nil, IsEmpty.forall_iff, implies_true, and_true]
  exact .scalar _ _ _

/-- The annotated tree is the plain one, rearranged. -/
theorem rearranges_annotatedTree :
    Relation.ReflTransGen (Rearranges .config) plainTree annotatedTree := by
  have hswap : Rearranges .config plainTree
      (.mapping [(quoted "corpus", .mapping [(quoted "general", quoted "all")] none),
        (quoted "mode", quoted "parser")] none) := .reorder (.swap _ _ []) none
  have hdir : Rearranges .corpus (.mapping [(quoted "general", quoted "all")] none)
      (.mapping [(quoted "dir", quoted "y"), (quoted "general", quoted "all")] none) :=
    .add rfl rfl rfl rfl
  have hcorpus : (quoted "corpus").string? = some "corpus" := rfl
  have hnote : Rearranges .config (.mapping annotatedTree.entries.tail none) annotatedTree :=
    .add rfl rfl rfl rfl
  have hunder : Rearranges .config
      (.mapping [(quoted "corpus", .mapping [(quoted "general", quoted "all")] none),
        (quoted "mode", quoted "parser")] none)
      (.mapping annotatedTree.entries.tail none) := .under (l := .config) hcorpus hdir [] _ none
  exact .tail (.tail (.single hswap) hunder) hnote

/-- The file of a scene is read as its configuration. -/
theorem reads_sceneWith {text : String} {t : Node} {size : Nat} (ht : t.Tree) (args : Arguments)
    (hargs : args.config = none) (hcontent : (Blank.trim text.toList).isEmpty = false)
    (hdocument : Document.ofText text = .ok ⟨some t, [], size⟩) :
    Reads idleHost args (sceneWith text) defaultFile t (sceneWith text) := by
  have hfile : idleHost.isFile defaultFile (sceneWith text) = true := by cbv
  have hread : idleHost.read defaultFile (sceneWith text)
      = .ok (.ofString text) (sceneWith text) := by cbv
  exact .intro (by rw [configFile?, hargs, hfile]; rfl) hread (Bytes.text?_ofString text)
    (.intro hcontent hdocument rfl (ht.spells []) (Nat.zero_le _))

theorem resolve_layers_annotated :
    let args : Arguments := { mode := some .lexer }
    let c : Config := { Config.conventional with
      mode := .lexer, corpus := { Corpus.conventional with general := .ofString "all" } }
    resolve idleHost args (sceneWith plainText) = .ok c (sceneWith plainText) ∧
      resolve idleHost args (sceneWith annotatedText) = .ok c (sceneWith annotatedText) := by
  intro args c
  have hdescribed : Config.Described plainTree { c with mode := .parser } :=
    { isRecord := rfl
      mode := .inl ⟨quoted "parser", rfl, "parser", rfl, by decide⟩
      scratchDir := .inr ⟨rfl, rfl⟩
      corpus := .inl ⟨_, rfl,
        { isRecord := rfl
          general := .inl ⟨_, rfl, "all", rfl, rfl⟩
          lexer := .inr ⟨rfl, rfl⟩
          parser := .inr ⟨rfl, rfl⟩
          extension := .inr ⟨rfl, rfl⟩ }⟩
      build := .inr ⟨rfl, rfl⟩
      candidate := .inr ⟨rfl, rfl⟩
      reference := .inr ⟨rfl, rfl⟩
      contextLines := .inr ⟨rfl, rfl⟩ }
  have htree := (Config.described_of_rearranges rearranges_annotatedTree plainTree_tree c).1
  have hdocument : Document.ofText plainText = .ok ⟨some plainTree, [], 9⟩ := by cbv
  have hdocument' : Document.ofText annotatedText = .ok ⟨some annotatedTree, [], 13⟩ := by cbv
  have hplain := reads_sceneWith plainTree_tree args rfl (by cbv) hdocument
  have hannotated := reads_sceneWith htree args rfl (by cbv) hdocument'
  obtain ⟨hok, -, hsame⟩ := resolve_layers hplain plainTree_tree
  have hresolved := (hok c _).mpr ⟨rfl, _, hdescribed, rfl⟩
  exact ⟨hresolved, (hsame rearranges_annotatedTree hannotated c).mp hresolved⟩

end Program

end TwinRun
