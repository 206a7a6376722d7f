/-
The depth of expansion as a counter. An emitter that is used again and again counts
the expansions that it is inside of. A call is refused once the count has reached the
limit; otherwise its form is expanded, the count is raised, the expansion is written,
and the count is lowered again, whether that went well or not. A count that a failure
left too high would be felt by later emissions only.

# What is counted

`Gauge` is a run together with the count, and `Emitter.Counts` is the recursion of a
writer that keeps the count as above, with nothing said about its value in between or
in the end. `Emission` passes the levels that are left instead, and has no count.

# The argument

`GaugeM.MirrorsFrom depth r m m'` says that from this count and this run on `m` does to
the run what `m'` does and comes back to the same count, also in failing. It passes
through sequencing, scopes, streams and layouts, and raising the count before something
that mirrors at the raised count, lowering it after, mirrors at the count itself. By
induction along emission, a writer that counts mirrors emission with the levels that its count leaves
(`Emitter.Counts.mirrors`). So there is one such writer (`Emitter.counting_counts`),
and after any uses the count is that of a new emitter.
-/
import FormScript.Proofs.Consulting
import FormScript.Session

namespace FormScript

-- ================================================================= counts

/-- A run, and the count of the expansions that it is inside of. -/
structure Gauge where
  run : Run
  depth : Int

/-- A computation that may change the run and the count. Both stay as they are when it
fails. -/
abbrev GaugeM := EStateM Error Gauge

namespace GaugeM

variable {α β : Type}

/-- The run and the count in the end, be it a success or a failure. -/
def left : EStateM.Result Error Gauge α → Gauge
  | .ok _ g => g
  | .error _ g => g

/-- A computation that does not touch the count. -/
def ofEmit (m : EmitM α) : GaugeM α := fun g =>
  match m g.run with
  | .ok a r => .ok a { g with run := r }
  | .error e r => .error e { g with run := r }

/-- A computation with the count raised before it, and lowered after it however it
ends. -/
def deeper (m : GaugeM α) : GaugeM α := fun g =>
  match m { g with depth := g.depth + 1 } with
  | .ok a g => .ok a { g with depth := g.depth - 1 }
  | .error e g => .error e { g with depth := g.depth - 1 }

/-- The writing of a body in a scope of its own. -/
def inScope (scope : Scope) (body : GaugeM String) : GaugeM String := fun g =>
  match body { g with run := { g.run with scope := some scope } } with
  | .ok text h =>
    .ok ((h.run.scope.getD scope).declaration ++ text)
      { h with run := { h.run with scope := g.run.scope } }
  | .error e h => .error e { h with run := { h.run with scope := g.run.scope } }

/-- A step inside an iteration. -/
def iterated (m : GaugeM α) : GaugeM α := fun g =>
  match m g with
  | .ok a h => .ok a h
  | .error e h => .error e.iterated h

/-- The writing of what a stream still has, numbered from `index`. -/
def takeAll (write : Node → GaugeM String) (id : Identity) :
    (index : Nat) → List Node → GaugeM (List String)
  | _, [] => return []
  | index, n :: rest => do
    let g ← get
    if g.run.streams.position id ≤ index then
      set { g with run := { g.run with streams := g.run.streams.advance id (index + 1) } }
      let text ← write n
      let texts ← takeAll write id (index + 1) rest
      return text :: texts
    else takeAll write id (index + 1) rest

end GaugeM

/-- Write a layout, given how its children are written by a writer that counts. -/
def Layout.gauge (dedupe : Bool) (write : Node → GaugeM String) : Layout → GaugeM String
  | .text s => return s
  | .node n => write n
  | .item n => GaugeM.iterated (write n)
  | .fail e => throw e
  | .append first second => do
    let x ← first.gauge dedupe write
    let y ← second.gauge dedupe write
    return x ++ y
  | .late front back => do
    let y ← back.gauge dedupe write
    let x ← front.gauge dedupe write
    return x ++ y
  | .twice part between => do
    let x ← part.gauge dedupe write
    return x ++ between ++ x
  | .statement part => return terminate (← part.gauge dedupe write)
  | .declare names => do
    GaugeM.ofEmit (EmitM.declare names)
    return ""
  | .inline s => return if ← GaugeM.ofEmit EmitM.hasScope then "" else s
  | .enclosed part => GaugeM.inScope { dedupe := dedupe } (part.gauge dedupe write)
  | .stream id items => do
    let texts ← GaugeM.iterated (GaugeM.takeAll write id 0 items)
    return "[" ++ ", ".intercalate texts ++ "]"

namespace Emitter

/-- A call of a custom form: it is refused at the limit, otherwise it is noted and
expanded, and its expansion is written one deeper. -/
def gaugeCall (e : Emitter) (write : Node → GaugeM String) (call : Call) : GaugeM String := do
  if e.config.limit ≤ (← get).depth then GaugeM.ofEmit (e.refuse call)
  else
    let stamp ← GaugeM.ofEmit (EmitM.beginExpansion call.name)
    let expansion ← GaugeM.ofEmit (EmitM.ofExcept (call.form.expand stamp call.args))
    GaugeM.deeper (write expansion)

/-- One level of writing a node. -/
def gaugeWith (e : Emitter) (write : Node → GaugeM String) (n : Node) : GaugeM String :=
  match e.forms.customCall? n with
  | some call => e.gaugeCall write call
  | none => n.layout.gauge e.config.dedupe write

/-- A writer that counts: at every node it does one level of writing and leaves the
levels below to itself. -/
def Counts (e : Emitter) (write : Node → GaugeM String) : Prop :=
  ∀ n, write n = e.gaugeWith write n

end Emitter

-- ============================================================== mirroring

namespace GaugeM

variable {α β : Type}

/-- From this count and this run on a computation does what another one does to the
run, and the count is the same when it ends. -/
def MirrorsFrom (depth : Int) (r : Run) (m : GaugeM α) (m' : EmitM α) : Prop :=
  m ⟨r, depth⟩ = ofEmit m' ⟨r, depth⟩

/-- From this count on a computation does what another one does to the run, and the
count is the same when it ends. -/
def Mirrors (depth : Int) (m : GaugeM α) (m' : EmitM α) : Prop :=
  ∀ r, m ⟨r, depth⟩ = ofEmit m' ⟨r, depth⟩

variable {depth : Int} {r : Run}

theorem ofEmit_ok {m : EmitM α} {r s : Run} {a : α} (h : m r = .ok a s) :
    ofEmit m ⟨r, depth⟩ = .ok a ⟨s, depth⟩ := by
  simp only [ofEmit, h]

theorem ofEmit_error {m : EmitM α} {r s : Run} {e : Error} (h : m r = .error e s) :
    ofEmit m ⟨r, depth⟩ = .error e ⟨s, depth⟩ := by
  simp only [ofEmit, h]

theorem left_ofEmit_depth (m : EmitM α) (g : Gauge) :
    (left (ofEmit m g)).depth = g.depth := by
  unfold ofEmit
  cases m g.run with
  | ok a r => rfl
  | error e r => rfl

theorem ofEmit_mirrors (m : EmitM α) : MirrorsFrom depth r (ofEmit m) m := rfl

theorem pure_mirrors (a : α) : MirrorsFrom depth r (pure a) (pure a) := rfl

theorem throw_mirrors (e : Error) : MirrorsFrom depth r (throw e : GaugeM α) (throw e) := rfl

/-- Two steps mirror two others if the first ones do, and the second ones where the
first one leads to. -/
theorem bind_mirrors {m : GaugeM α} {m' : EmitM α} {f : α → GaugeM β} {f' : α → EmitM β}
    (hm : MirrorsFrom depth r m m')
    (hf : ∀ a s, m' r = .ok a s → MirrorsFrom depth s (f a) (f' a)) :
    MirrorsFrom depth r (m >>= f) (m' >>= f') := by
  unfold MirrorsFrom at hm ⊢
  show EStateM.bind m f ⟨r, depth⟩ = _
  cases h : m' r with
  | ok a s =>
      rw [ofEmit_ok h] at hm
      simp only [EStateM.bind, hm]
      rw [hf a s h]
      simp only [ofEmit, EmitM.bind_ok h]
  | error e s =>
      rw [ofEmit_error h] at hm
      rw [ofEmit_error (EmitM.bind_error h)]
      simp only [EStateM.bind, hm]

/-- A last step that only turns the result. -/
theorem map_mirrors {m : GaugeM α} {m' : EmitM α} (hm : MirrorsFrom depth r m m') (g : α → β) :
    MirrorsFrom depth r (m >>= fun a => pure (g a)) (m' >>= fun a => pure (g a)) :=
  bind_mirrors hm fun a _ _ => pure_mirrors (g a)

/-- What mirrors at the raised count mirrors at the count itself, once the count is
raised before it and lowered after it. -/
theorem deeper_mirrors {m : GaugeM α} {m' : EmitM α} (h : MirrorsFrom (depth + 1) r m m') :
    MirrorsFrom depth r (deeper m) m' := by
  unfold MirrorsFrom at h ⊢
  have hback : depth + 1 - 1 = depth := by omega
  cases hm : m' r with
  | ok a s => simp only [deeper, h, ofEmit, hm, hback]
  | error e s => simp only [deeper, h, ofEmit, hm, hback]

theorem iterated_mirrors {m : GaugeM α} {m' : EmitM α} (h : MirrorsFrom depth r m m') :
    MirrorsFrom depth r (iterated m) (EmitM.iterated m') := by
  unfold MirrorsFrom at h ⊢
  cases hm : m' r with
  | ok a s => simp only [iterated, EmitM.iterated, h, ofEmit, hm]
  | error e s => simp only [iterated, EmitM.iterated, h, ofEmit, hm]

theorem inScope_mirrors {body : GaugeM String} {body' : EmitM String} (scope : Scope)
    (h : MirrorsFrom depth { r with scope := some scope } body body') :
    MirrorsFrom depth r (inScope scope body) (EmitM.inScope scope body') := by
  unfold MirrorsFrom at h ⊢
  cases hr : body' { r with scope := some scope } with
  | ok text s => simp only [inScope, EmitM.inScope, h, ofEmit, hr]
  | error e s => simp only [inScope, EmitM.inScope, h, ofEmit, hr]

/-- Items are taken in step if those that are written are written in step. -/
theorem takeAll_mirrors {write : Node → GaugeM String} {write' : Node → EmitM String}
    {id : Identity} {index : Nat} {items : List Node}
    (h : ∀ n s, EmitM.Takes write' id index items r n s →
      MirrorsFrom depth s (write n) (write' n)) :
    MirrorsFrom depth r (takeAll write id index items)
      (EmitM.takeAll write' id index items) := by
  induction items generalizing index r with
  | nil => exact pure_mirrors []
  | cons n rest ih =>
      unfold MirrorsFrom
      rcases Nat.lt_or_ge index (r.streams.position id) with gone | left
      · have hpassed : takeAll write id index (n :: rest) ⟨r, depth⟩
            = takeAll write id (index + 1) rest ⟨r, depth⟩ := by
          rw [takeAll]
          show (if r.streams.position id ≤ index then _ else _ : GaugeM _) ⟨r, depth⟩ = _
          rw [if_neg (by omega)]
        rw [hpassed]
        simp only [ofEmit, EmitM.takeAll_cons_of_lt gone]
        exact ih fun m s hm => h m s (.passed gone hm)
      · have htaken : takeAll write id index (n :: rest) ⟨r, depth⟩
            = (do
                let text ← write n
                let texts ← takeAll write id (index + 1) rest
                return text :: texts : GaugeM (List String))
              ⟨{ r with streams := r.streams.advance id (index + 1) }, depth⟩ := by
          rw [takeAll]
          show (if r.streams.position id ≤ index then _ else _ : GaugeM _) ⟨r, depth⟩ = _
          rw [if_pos left]
          rfl
        rw [htaken]
        simp only [ofEmit, EmitM.takeAll_cons_eq_of_le left]
        refine bind_mirrors (h n _ (.now left)) fun text s hs => ?_
        exact map_mirrors (ih fun m u hm => h m u (.later left hs hm)) (text :: ·)

end GaugeM

/-- A layout mirrors itself from a run if its children do, those that are written, each
from the run that it is written from. -/
theorem Layout.gauge_mirrorsFrom {dedupe : Bool} {write : Node → GaugeM String}
    {write' : Node → EmitM String} {depth : Int} {r : Run} {l : Layout}
    (h : ∀ n s, l.Writes dedupe write' r n s →
      GaugeM.MirrorsFrom depth s (write n) (write' n)) :
    GaugeM.MirrorsFrom depth r (l.gauge dedupe write) (l.run dedupe write') := by
  induction l generalizing r with
  | text s => exact GaugeM.pure_mirrors s
  | node n => exact h n r .node
  | item n => exact GaugeM.iterated_mirrors (h n r .item)
  | fail e => exact GaugeM.throw_mirrors e
  | append a b iha ihb =>
      refine GaugeM.bind_mirrors (iha fun n s hn => h n s (.first hn)) fun x u hx => ?_
      exact GaugeM.map_mirrors (ihb fun n s hn => h n s (.second hx hn)) (x ++ ·)
  | late a b iha ihb =>
      refine GaugeM.bind_mirrors (ihb fun n s hn => h n s (.back hn)) fun y u hy => ?_
      exact GaugeM.map_mirrors (iha fun n s hn => h n s (.front hy hn)) (· ++ y)
  | twice a between ih => exact GaugeM.map_mirrors (ih fun n s hn => h n s (.twice hn)) _
  | statement a ih => exact GaugeM.map_mirrors (ih fun n s hn => h n s (.statement hn)) _
  | declare names => exact GaugeM.map_mirrors (GaugeM.ofEmit_mirrors _) _
  | inline s => exact GaugeM.map_mirrors (GaugeM.ofEmit_mirrors _) _
  | enclosed a ih => exact GaugeM.inScope_mirrors _ (ih fun n s hn => h n s (.inside hn))
  | stream id items =>
      have hitems := GaugeM.takeAll_mirrors fun n s hn => h n s (.taking hn)
      exact GaugeM.map_mirrors (GaugeM.iterated_mirrors hitems) _

/-- A layout mirrors itself if its children mirror theirs. -/
theorem Layout.gauge_mirrors {dedupe : Bool} {write : Node → GaugeM String}
    {write' : Node → EmitM String} {depth : Int} {l : Layout}
    (h : l.All fun n => GaugeM.Mirrors depth (write n) (write' n)) :
    GaugeM.Mirrors depth (l.gauge dedupe write) (l.run dedupe write') :=
  fun _ => gauge_mirrorsFrom fun _ s hn => h.of_writes hn s

-- =============================================================== counting

namespace Emitter

variable {e : Emitter} {write : Node → GaugeM String}

/-- The levels of expansion that a count leaves. -/
def levelsAt (e : Emitter) (depth : Int) : Nat := (e.config.limit - depth).toNat

/-- At the limit a call is refused; below it, its expansion is written with the levels
that the raised count leaves. -/
theorem emitAt_levelsAt_custom {depth : Int} {n : Node} {call : Call}
    (hcall : e.forms.customCall? n = some call) :
    e.emitAt (e.levelsAt depth) n
      = if e.config.limit ≤ depth then e.refuse call
        else call.expandWith (e.emitAt (e.levelsAt (depth + 1))) := by
  by_cases hlimit : e.config.limit ≤ depth
  · have hnone : e.levelsAt depth = 0 := by unfold levelsAt; omega
    rw [if_pos hlimit, hnone, e.emitAt_zero_custom hcall]
  · have hlevels : e.levelsAt depth = e.levelsAt (depth + 1) + 1 := by
      unfold levelsAt
      omega
    rw [if_neg hlimit, hlevels, e.emitAt_succ_custom hcall]

/-- A call mirrors emission if what it expands to, below the limit, does at the raised
count. -/
theorem gaugeCall_mirrors {depth : Int} {r : Run} {n : Node} {call : Call}
    (hcall : e.forms.customCall? n = some call)
    (h : depth < e.config.limit → ∀ m,
      call.form.expand r.streams.nextStamp call.args = .ok m →
        GaugeM.MirrorsFrom (depth + 1) (r.expanding call.name) (write m)
          (e.emitAt (e.levelsAt (depth + 1)) m)) :
    GaugeM.MirrorsFrom depth r (e.gaugeCall write call) (e.emitAt (e.levelsAt depth) n) := by
  show (if e.config.limit ≤ depth then _ else _ : GaugeM _) ⟨r, depth⟩ = _
  rw [emitAt_levelsAt_custom hcall]
  by_cases hlimit : e.config.limit ≤ depth
  · rw [if_pos hlimit, if_pos hlimit]
  · rw [if_neg hlimit, if_neg hlimit]
    refine GaugeM.bind_mirrors (GaugeM.ofEmit_mirrors _) fun stamp s hs => ?_
    cases hs
    refine GaugeM.bind_mirrors (GaugeM.ofEmit_mirrors _) fun m s hm => ?_
    cases hexpand : call.form.expand r.streams.nextStamp call.args with
    | error err =>
        rw [hexpand] at hm
        cases hm
    | ok m' =>
        rw [hexpand] at hm
        cases hm
        exact GaugeM.deeper_mirrors (h (by omega) m hexpand)

/-- A writer that counts mirrors emission, from every count. -/
theorem Counts.mirrors (h : e.Counts write) (depth : Int) (n : Node) :
    GaugeM.Mirrors depth (write n) (e.emitAt (e.levelsAt depth) n) := by
  -- along emission, for every count that leaves so many levels
  suffices hlevels : ∀ levels n depth, e.levelsAt depth = levels →
      GaugeM.Mirrors depth (write n) (e.emitAt levels n) from hlevels _ n depth rfl
  refine e.emission_induction (P := fun levels n => ∀ depth, e.levelsAt depth = levels →
    GaugeM.Mirrors depth (write n) (e.emitAt levels n)) ?_ ?_ ?_
  · intro n call hcall depth hdepth r
    rw [h n, gaugeWith, hcall, ← hdepth]
    refine gaugeCall_mirrors hcall fun hlimit => ?_
    unfold levelsAt at hdepth
    omega
  · intro levels n call hcall ih depth hdepth r
    rw [h n, gaugeWith, hcall, ← hdepth]
    refine gaugeCall_mirrors hcall fun _ m _ => ?_
    have hbelow : e.levelsAt (depth + 1) = levels := by
      unfold levelsAt at hdepth ⊢
      omega
    rw [hbelow]
    exact ih m (depth + 1) hbelow _
  · intro levels n hcall ih depth hdepth
    rw [h n, gaugeWith, hcall, e.emitAt_of_not_custom hcall]
    exact Layout.gauge_mirrors (ih.imp fun m hm => hm depth hdepth)

/-- Emission with the count passed along. -/
def counting (e : Emitter) (n : Node) : GaugeM String := fun g =>
  GaugeM.ofEmit (e.emitAt (e.levelsAt g.depth) n) g

/-- Emission with the count passed along counts, so there is a writer that does. -/
theorem counting_counts (e : Emitter) : e.Counts e.counting := by
  have hself (depth : Int) (m : Node) :
      GaugeM.Mirrors depth (e.counting m) (e.emitAt (e.levelsAt depth) m) := fun _ => rfl
  intro n
  funext g
  obtain ⟨r, depth⟩ := g
  unfold gaugeWith
  cases hcall : e.forms.customCall? n with
  | some call => exact (gaugeCall_mirrors hcall fun _ m _ => hself (depth + 1) m _).symm
  | none =>
      have hlayout : GaugeM.Mirrors depth (n.layout.gauge e.config.dedupe e.counting)
          (n.layout.run e.config.dedupe (e.emitAt (e.levelsAt depth))) :=
        Layout.gauge_mirrors (Layout.all_of_forall (hself depth) _)
      rw [← e.emitAt_of_not_custom hcall] at hlayout
      exact (hlayout r).symm

end Emitter

-- ================================================================ service

/-- What an emitter can be asked to write. -/
inductive Job where
  | node (n : Node) (scope : Option Scope)
  | statements (ns : List Node) (scope : Option Scope)
  | function (name : Option Node) (params : Node) (body : List Node) (declaration : Bool)
  | program (forms : List Node)

namespace Job

def layout : Job → Layout
  | .node n _ => .node n
  | .statements ns _ => Layout.statements ns
  | .function name params body declaration =>
    Session.functionLayout name params body declaration
  | .program forms => Emitter.programLayout forms

/-- The scope that is open at the start. -/
def scope : Job → Option Scope
  | .node _ scope | .statements _ scope => scope
  | .function .. | .program .. => none

end Job

/-- A use of an emitter: something to write, or other settings. -/
inductive Use where
  | job (job : Job)
  | settings (config : Config)

/-- An emitter in service: the settings and the count that it has at the time, and how
far the streams around it have been read. -/
structure Service where
  config : Config
  depth : Int := 0
  streams : Streams := {}

namespace Service

variable (write : Config → Node → GaugeM String)

/-- The text or the failure of a job, with the scope, the notes, the streams and the
count that it leaves. -/
def perform (s : Service) (job : Job) : EStateM.Result Error Gauge String :=
  job.layout.gauge s.config.dedupe (write s.config)
    ⟨{ scope := job.scope, streams := s.streams }, s.depth⟩

/-- The emitter after one use. -/
def use (s : Service) : Use → Service
  | .settings config => { s with config }
  | .job job =>
    let g := GaugeM.left (s.perform write job)
    { s with depth := g.depth, streams := g.run.streams }

/-- The emitter after some uses. -/
def after (s : Service) (uses : List Use) : Service := uses.foldl (use write) s

variable {write : Config → Node → GaugeM String} {forms : Registry} {s : Service}

/-- With the count at zero a job is done as emission does it, and the count is at zero
again. -/
theorem perform_eq (hwrite : ∀ config, Emitter.Counts { forms, config } (write config))
    (hzero : s.depth = 0) (job : Job) :
    s.perform write job
      = GaugeM.ofEmit (Emitter.emitLayout { forms, config := s.config } job.layout)
          ⟨{ scope := job.scope, streams := s.streams }, 0⟩ := by
  have hchildren (n : Node) : GaugeM.Mirrors 0 (write s.config n)
      (Emitter.emit { forms, config := s.config } n) := by
    have hmirrors := (hwrite s.config).mirrors 0 n
    rw [Emitter.levelsAt, Int.sub_zero] at hmirrors
    exact hmirrors
  unfold perform
  rw [hzero]
  exact Layout.gauge_mirrors (Layout.all_of_forall hchildren _) _

theorem use_depth (hwrite : ∀ config, Emitter.Counts { forms, config } (write config))
    (hzero : s.depth = 0) (u : Use) : (s.use write u).depth = 0 := by
  cases u with
  | settings config => exact hzero
  | job job =>
      show (GaugeM.left (s.perform write job)).depth = 0
      rw [perform_eq hwrite hzero job, GaugeM.left_ofEmit_depth]

theorem after_depth (hwrite : ∀ config, Emitter.Counts { forms, config } (write config))
    (hzero : s.depth = 0) (uses : List Use) : (s.after write uses).depth = 0 := by
  induction uses generalizing s with
  | nil => exact hzero
  | cons u rest ih => exact ih (use_depth hwrite hzero u)

/-- An emitter carries no history. Let it count its expansions as it goes, in one
counter that every call checks, raises and lowers. After any uses, jobs that failed
anywhere included, its count is at zero, and it does every job as an emitter does that
has just been made with the same forms and the settings of the time: with the same text
or failure, the same scope and the same notes, which are those of emission. -/
theorem after_uses_like_new
    (hwrite : ∀ config, Emitter.Counts { forms, config } (write config))
    (config : Config) (streams : Streams) (uses : List Use) :
    let s := after write { config, streams } uses
    s.depth = 0 ∧ ∀ job,
      s.perform write job = perform write { config := s.config, streams := s.streams } job
        ∧ s.perform write job
          = GaugeM.ofEmit (Emitter.emitLayout { forms, config := s.config } job.layout)
              ⟨{ scope := job.scope, streams := s.streams }, 0⟩ := by
  intro s
  have hzero : s.depth = 0 := after_depth hwrite rfl uses
  refine ⟨hzero, fun job => ⟨?_, perform_eq hwrite hzero job⟩⟩
  have hnew : perform write { config := s.config, streams := s.streams } job
      = GaugeM.ofEmit (Emitter.emitLayout { forms, config := s.config } job.layout)
          ⟨{ scope := job.scope, streams := s.streams }, 0⟩ :=
    perform_eq hwrite rfl job
  rw [perform_eq hwrite hzero job, hnew]

/-- Forms of which one counts down, one refuses every call, and one expands to a form
that cannot be written. -/
def troublesome : Registry :=
  ((Registry.empty.insert "nest" (CustomForm.countdown "nest")).insert "refuse"
    (CustomForm.refuse "no")).insert "wrong" (CustomForm.constant fun _ => .ok (.form []))

open Node in
/-- Uses that fail at the limit, in an expansion, and while an expansion is written. -/
def mishaps : List Use :=
  [.settings { limit := 2 },
    .job (.node (call "nest" [.int 5]) (some { names := ["a"] })),
    .job (.statements [call "nest" [.int 0], call "refuse" []] none),
    .job (.program [call "var" [symbol "b", call "wrong" []]]),
    .settings { limit := 3 }]

open Node in
/-- A countdown that needs three levels is written after three failures, under a limit
of three. -/
theorem mishaps_like_new :
    let s := after (fun config => Emitter.counting { forms := troublesome, config })
      { config := {} } mishaps
    s.depth = 0 ∧ s.config.limit = 3
      ∧ s.perform (fun config => Emitter.counting { forms := troublesome, config })
          (.node (call "nest" [.int 2]) none)
        = .ok "0"
            ⟨{ streams := { nextStamp := 8 }
               events := #[.expanding "nest", .expanding "nest", .expanding "nest"] }, 0⟩ := by
  obtain ⟨hzero, hjobs⟩ := after_uses_like_new
    (fun config => Emitter.counting_counts { forms := troublesome, config }) {} {} mishaps
  exact ⟨hzero, rfl, (hjobs _).2.trans rfl⟩

end Service

end FormScript
