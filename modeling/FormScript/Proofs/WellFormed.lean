/-
Well-formed nodes: the grammar of the trees that can be written without
custom forms. It says of each node which names in it are valid, how many
arguments it takes and which of them are written themselves, and it mentions
no scope, no setting and no text.

The grammar decides emission: a tree without streams is written exactly if it
is well formed, whatever the scope and the settings
(`Emitter.emit_ok_iff_wellFormed`). One direction needs no such restriction: a
well-formed node is always written. In the other one a stream must not occur,
since how much of it is written depends on who has read it before.
-/
import FormScript.Proofs.Readability.Expression
import FormScript.Proofs.WellFormed.Range
import FormScript.Proofs.WellFormed.Shape

namespace FormScript

namespace Node

-- =============================================================== grammar

/-- The trees that can be written. -/
inductive WellFormed : Node → Prop
  | nil : WellFormed .nil
  | bool (b : Bool) : WellFormed (.bool b)
  | int (i : Int) : WellFormed (.int i)
  | float (id : Identity) (x : Binary64) : WellFormed (.float id x)
  /-- A ratio must not round beyond the largest finite number. -/
  | ratio (q : Rat) (range : |q| < 2 ^ 1024 - 2 ^ 970) : WellFormed (.ratio q)
  | str (s : String) : WellFormed (.str s)
  | regex (r : Regex) : WellFormed (.regex r)
  | bytes (bs : List UInt8) : WellFormed (.bytes bs)
  | foreign (id : Identity) (shown : String) : WellFormed (.foreign id shown)
  | sym (id : Ident) (valid : isIdentifier id.name) : WellFormed (.sym id)
  | keyword (id : Ident) (valid : isIdentifier id.name) : WellFormed (.keyword id)
  | seq (kind : SeqKind) (items : List Node) (inner : ∀ n ∈ items, WellFormed n) :
      WellFormed (.seq kind items)
  | map (kind : MapKind) (pairs : List (Node × Node)) (keys : ∀ p ∈ pairs, WellFormed p.1)
      (values : ∀ p ∈ pairs, WellFormed p.2) : WellFormed (.map kind pairs)
  /-- A call of what a keyword or another form stands for. -/
  | keywordCall (id : Ident) (args : List Node) (inner : ∀ n ∈ .keyword id :: args, WellFormed n) :
      WellFormed (.form (.keyword id :: args))
  | formCall (items args : List Node) (inner : ∀ n ∈ .form items :: args, WellFormed n) :
      WellFormed (.form (.form items :: args))
  /-- A method call, on the first argument. -/
  | methodCall (id : Ident) (method : String) (args : List Node)
      (named : methodName? id.name = some method) (valid : isIdentifier method)
      (object : args ≠ []) (inner : ∀ n ∈ args, WellFormed n) :
      WellFormed (.form (.sym id :: args))
  | special (id : Ident) (form : SpecialForm) (args : List Node)
      (named : SpecialForm.ofName? id.name = some form) (shape : form.accepts args)
      (inner : ∀ n ∈ form.parts args, WellFormed n) : WellFormed (.form (.sym id :: args))
  /-- A binary operator between two operands, or more of them if it chains. -/
  | binary (id : Ident) (args : List Node) (known : Operator.isBinary id.name)
      (count : args.length = 2 ∨ 2 ≤ args.length ∧ Operator.isChainable id.name)
      (inner : ∀ n ∈ args, WellFormed n) : WellFormed (.form (.sym id :: args))
  | unary (id : Ident) (operand : Node)
      (known : Operator.isLeading id.name ∨ Operator.isTrailing id.name)
      (inner : WellFormed operand) : WellFormed (.form [.sym id, operand])
  /-- A call of a plain name. -/
  | call (id : Ident) (args : List Node) (valid : isIdentifier id.name)
      (ordinary : SpecialForm.ofName? id.name = none)
      (unknown : Operator.isOperator id.name = false) (inner : ∀ n ∈ args, WellFormed n) :
      WellFormed (.form (.sym id :: args))

-- =============================================================== streams

mutual

/-- Whether a tree holds no stream. -/
def streamFree : Node → Bool
  | .form items => streamFreeAll items
  | .seq _ items => streamFreeAll items
  | .map _ pairs => streamFreePairs pairs
  | .stream _ _ => false
  | _ => true
termination_by structural n => n

def streamFreeAll : List Node → Bool
  | [] => true
  | n :: rest => n.streamFree && streamFreeAll rest
termination_by structural ns => ns

def streamFreePairs : List (Node × Node) → Bool
  | [] => true
  | (k, v) :: rest => k.streamFree && v.streamFree && streamFreePairs rest
termination_by structural ps => ps

end

theorem streamFreeAll_iff {items : List Node} :
    streamFreeAll items ↔ ∀ n ∈ items, n.streamFree := by
  induction items with
  | nil => simp [streamFreeAll]
  | cons n items ih => simp [streamFreeAll, ih]

theorem streamFreePairs_iff {pairs : List (Node × Node)} :
    streamFreePairs pairs ↔ ∀ p ∈ pairs, p.1.streamFree ∧ p.2.streamFree := by
  induction pairs with
  | nil => simp [streamFreePairs]
  | cons p pairs ih => simp [streamFreePairs, ih, and_assoc]

theorem streamFree_of_mem_form {items : List Node} (h : (form items).streamFree) :
    ∀ n ∈ items, n.streamFree :=
  streamFreeAll_iff.1 h

theorem streamFree_of_mem_seq {kind : SeqKind} {items : List Node}
    (h : (seq kind items).streamFree) : ∀ n ∈ items, n.streamFree :=
  streamFreeAll_iff.1 h

-- ================================================================= heads

/-- A unary operator is nothing else. -/
theorem unary_ordinary {op : String}
    (h : Operator.isLeading op ∨ Operator.isTrailing op) :
    methodName? op = none ∧ SpecialForm.ofName? op = none ∧ Operator.isBinary op = false := by
  have all : ∀ op ∈ Operator.leading ++ Operator.trailing,
      methodName? op = none ∧ SpecialForm.ofName? op = none ∧ Operator.isBinary op = false := by
    decide
  refine all op (List.mem_append.2 ?_)
  rcases h with h | h
  · exact .inl (List.contains_iff_mem.1 h)
  · exact .inr (List.contains_iff_mem.1 h)

theorem operator_accepts_iff {op : String} {count : Nat} :
    Operator.accepts op count ↔ count = 2 ∨ 2 ≤ count ∧ Operator.isChainable op := by
  simp only [Operator.accepts, Bool.or_eq_true, Bool.and_eq_true, beq_iff_eq, decide_eq_true_eq]
  grind

open Layout

/-- The layout of a well-formed node holds no failure and no stream, and its
children are well formed. -/
theorem WellFormed.layout_admits {n : Node} (h : n.WellFormed) :
    n.layout.Admits False WellFormed := by
  cases h with
  | nil | bool | int | float | str | regex | bytes | foreign => trivial
  | ratio q range =>
      obtain ⟨x, hx⟩ := Option.isSome_iff_exists.1 ((Binary64.ofRat?_isSome_iff q).2 range)
      simp [layout, hx]
  | sym id valid => exact ident_admits_iff.2 valid
  | keyword id valid => exact ident_admits_iff.2 valid
  | seq kind items inner =>
      exact ⟨trivial, joinNodes_admits_iff.2 inner, trivial⟩
  | map kind pairs keys values =>
      refine ⟨trivial, join_admits_iff.2 (List.forall_mem_map.2 fun p hp => ?_), trivial⟩
      exact entry_admits_iff.2 ⟨keys p hp, values p hp⟩
  | keywordCall id args inner => exact call_admits_iff.2 inner
  | formCall items args inner => exact call_admits_iff.2 inner
  | methodCall id method args named valid object inner =>
      show (symbolForm id args).Admits False WellFormed
      unfold symbolForm
      cases args with
      | nil => exact absurd rfl object
      | cons target rest =>
          simp only [named]
          exact methodCall_admits_iff.2 ⟨ident_admits_iff.2 valid, inner⟩
  | special id form args named shape inner =>
      show (symbolForm id args).Admits False WellFormed
      unfold symbolForm
      simp only [special_ordinary named, named]
      exact (SpecialForm.layout_admits_iff WellFormed.nil).2 ⟨shape, inner⟩
  | binary id args known count inner =>
      obtain ⟨hmethod, hspecial⟩ := operator_ordinary known
      show (symbolForm id args).Admits False WellFormed
      unfold symbolForm
      simp only [hmethod, hspecial]
      rw [if_pos known]
      exact binary_admits_iff.2 ⟨operator_accepts_iff.2 count, inner⟩
  | unary id operand known inner =>
      obtain ⟨hmethod, hspecial, hbinary⟩ := unary_ordinary known
      show (symbolForm id [operand]).Admits False WellFormed
      unfold symbolForm
      simp only [hmethod, hspecial]
      rw [if_neg (Bool.eq_false_iff.1 hbinary)]
      by_cases hleading : Operator.isLeading id.name
      · rw [if_pos hleading, operand_admits_iff fun n => by simp [Layout.seq]]
        simpa using inner
      · rw [if_neg hleading, if_pos (known.resolve_left hleading),
          operand_admits_iff fun n => by simp [Layout.seq]]
        simpa using inner
  | call id args valid ordinary unknown inner =>
      have hops : Operator.isBinary id.name = false ∧ Operator.isLeading id.name = false
          ∧ Operator.isTrailing id.name = false := by
        simpa [Operator.isOperator, and_assoc] using unknown
      show (symbolForm id args).Admits False WellFormed
      unfold symbolForm
      simp only [methodName?_of_isIdentifier valid, ordinary, hops]
      exact call_admits_iff.2 (List.forall_mem_cons.2 ⟨.sym id valid, inner⟩)

/-- A form with a symbol at its head is well formed if its layout holds no
failure and its children are well formed. -/
theorem wellFormed_of_symbolForm_admits {id : Ident} {args : List Node}
    (hargs : ∀ n ∈ args, n.streamFree)
    (h : (symbolForm id args).Admits True fun m => m.streamFree → m.WellFormed) :
    (form (sym id :: args)).WellFormed := by
  have hinner {ns : List Node} (hfree : ∀ n ∈ ns, n.streamFree)
      (hns : ∀ n ∈ ns, n.streamFree → n.WellFormed) : ∀ n ∈ ns, n.WellFormed :=
    fun n hn => hns n hn (hfree n hn)
  unfold symbolForm at h
  cases hmethod : methodName? id.name with
  | some method =>
      simp only [hmethod] at h
      cases args with
      | nil => exact h.elim
      | cons object rest =>
          obtain ⟨hvalid, hparts⟩ := methodCall_admits_iff.1 h
          exact .methodCall id method _ hmethod (ident_admits_iff.1 hvalid)
            (List.cons_ne_nil object rest) (hinner hargs hparts)
  | none =>
      simp only [hmethod] at h
      cases hspecial : SpecialForm.ofName? id.name with
      | some special =>
          simp only [hspecial] at h
          obtain ⟨hshape, hparts⟩ := (SpecialForm.layout_admits_iff fun _ => .nil).1 h
          refine .special id special args hspecial hshape (hinner ?_ hparts)
          exact SpecialForm.forall_mem_parts ⟨streamFree_of_mem_form, streamFree_of_mem_seq⟩ hargs
      | none =>
          simp only [hspecial] at h
          by_cases hbinary : Operator.isBinary id.name
          · rw [if_pos hbinary, binary_admits_iff] at h
            exact .binary id args hbinary (operator_accepts_iff.1 h.1) (hinner hargs h.2)
          · rw [if_neg hbinary] at h
            by_cases hleading : Operator.isLeading id.name
            · rw [if_pos hleading,
                operand_admits_iff fun n => by simp [Layout.seq]] at h
              obtain ⟨operand, rfl⟩ := List.length_eq_one_iff.1 h.1
              exact .unary id operand (.inl hleading) (hinner hargs h.2 operand (.head _))
            · rw [if_neg hleading] at h
              by_cases htrailing : Operator.isTrailing id.name
              · rw [if_pos htrailing,
                  operand_admits_iff fun n => by simp [Layout.seq]] at h
                obtain ⟨operand, rfl⟩ := List.length_eq_one_iff.1 h.1
                exact .unary id operand (.inr htrailing) (hinner hargs h.2 operand (.head _))
              · rw [if_neg htrailing, call_admits_iff, List.forall_mem_cons] at h
                have hunknown : Operator.isOperator id.name = false := by
                  simp [Operator.isOperator, hbinary, hleading, htrailing]
                cases h.1 rfl with
                | sym _ hvalid =>
                    exact .call id args hvalid hspecial hunknown (hinner hargs h.2)

/-- A node without streams is well formed if its layout holds no failure and
its children are well formed. -/
theorem wellFormed_of_layout_admits {n : Node} (hn : n.streamFree)
    (h : n.layout.Admits True fun m => m.streamFree → m.WellFormed) : n.WellFormed := by
  cases n with
  | nil => exact .nil
  | bool b => exact .bool b
  | int i => exact .int i
  | float id x => exact .float id x
  | ratio q =>
      refine .ratio q ((Binary64.ofRat?_isSome_iff q).1 ?_)
      cases hround : Binary64.ofRat? q with
      | some x => rfl
      | none =>
          simp only [layout, hround] at h
          exact h.elim
  | str s => exact .str s
  | sym id => exact .sym id (ident_admits_iff.1 h)
  | keyword id => exact .keyword id (ident_admits_iff.1 h)
  | regex r => exact .regex r
  | bytes bs => exact .bytes bs
  | foreign id shown => exact .foreign id shown
  | hole hole => exact h.elim
  | form items =>
      have hitems := streamFree_of_mem_form hn
      cases items with
      | nil => exact h.elim
      | cons head args =>
          have hargs : ∀ n ∈ args, n.streamFree := fun n hn => hitems n (.tail _ hn)
          cases head with
          | sym id => exact wellFormed_of_symbolForm_admits hargs h
          | keyword id =>
              have hparts := call_admits_iff.1 h
              exact .keywordCall id args fun n hn => hparts n hn (hitems n hn)
          | form items =>
              have hparts := call_admits_iff.1 h
              exact .formCall items args fun n hn => hparts n hn (hitems n hn)
          | _ => exact h.elim
  | seq kind items =>
      have hitems := streamFree_of_mem_seq hn
      have hparts := joinNodes_admits_iff.1 h.2.1
      exact .seq kind items fun n hn => hparts n hn (hitems n hn)
  | map kind pairs =>
      have hpairs := streamFreePairs_iff.1 hn
      have hentries := List.forall_mem_map.1 (join_admits_iff.1 h.2.1)
      refine .map kind pairs (fun p hp => ?_) (fun p hp => ?_)
      · exact (entry_admits_iff.1 (hentries p hp)).1 (hpairs p hp).1
      · exact (entry_admits_iff.1 (hentries p hp)).2 (hpairs p hp).2
  | stream id items => cases hn

end Node

-- ============================================================== emission

/-- Induction along layouts: from the children of a node to the node. -/
theorem Node.layout_induction {P : Node → Prop} (step : ∀ n, n.layout.All P → P n) (n : Node) :
    P n := by
  induction hk : n.height using Nat.strongRecOn generalizing n with
  | ind k ih =>
      refine step n (n.layout_below.imp fun m hm => ?_)
      exact ih m.height (hk ▸ hm) m rfl

namespace Emitter

variable (e : Emitter)

theorem emitAt_of_empty (he : e.forms = .empty) (levels : Nat) (n : Node) :
    e.emitAt levels n = n.layout.run e.config.dedupe (e.emitAt levels) :=
  e.emitAt_of_not_custom (he ▸ Node.customCall?_empty n)

/-- A well-formed node is written, from whatever run. -/
theorem emitAt_ok_of_wellFormed (he : e.forms = .empty) (levels : Nat) {n : Node} :
    n.WellFormed → ∀ r, ∃ t r', e.emitAt levels n r = .ok t r' := by
  induction n using Node.layout_induction with
  | step n ih =>
      intro hn r
      rw [e.emitAt_of_empty he]
      exact Layout.run_ok_of_admits (hn.layout_admits.imp_all ih) r

/-- A node without streams that is written is well formed. -/
theorem wellFormed_of_emitAt_ok (he : e.forms = .empty) (levels : Nat) {n : Node} :
    (∃ r t r', e.emitAt levels n r = .ok t r') → n.streamFree → n.WellFormed := by
  induction n using Node.layout_induction with
  | step n ih =>
      rintro ⟨r, t, r', h⟩ hn
      rw [e.emitAt_of_empty he] at h
      exact Node.wellFormed_of_layout_admits hn ((Layout.admits_of_run_ok h).imp_all ih)

/-- Being well formed decides emission: without custom forms, a tree without
streams is written exactly if it is well formed, whatever the settings, the
open scope and the rest of the run. -/
theorem emit_ok_iff_wellFormed (he : e.forms = .empty) {n : Node} (hn : n.streamFree) (r : Run) :
    (∃ t r', e.emit n r = .ok t r') ↔ n.WellFormed := by
  constructor
  · rintro ⟨t, r', h⟩
    exact e.wellFormed_of_emitAt_ok he _ ⟨r, t, r', h⟩ hn
  · intro h
    exact e.emitAt_ok_of_wellFormed he _ h r

open Node in
/-- A loop in a try form with a catch clause of these arguments. -/
def guardedLoop (clause : List Node) : Node :=
  call "try"
    [call "doseq"
      [.seq .vector [symbol "key", symbol "table"],
        call "set!" [symbol "total", call "+" [symbol "total", symbol "key", .int 1]]],
      call "catch" clause]

open Node in
/-- A catch clause that names a fault and passes it to a function. -/
def reportingClause : List Node :=
  [symbol "fault",
    call "fn" [symbol "report", .seq .list [.keyword ⟨"text", none⟩],
      call ".log" [symbol "console", symbol "text"]]]

/-- A guarded loop is well formed with a clause that names what it catches, and
not with one that names nothing. -/
theorem guardedLoop_wellFormed :
    (guardedLoop reportingClause).streamFree ∧ (guardedLoop reportingClause).WellFormed
      ∧ (guardedLoop []).streamFree ∧ ¬ (guardedLoop []).WellFormed := by
  refine ⟨rfl, ?_, rfl, fun h => ?_⟩
  · exact (emit_ok_iff_wellFormed {} rfl rfl {}).1 ⟨_, _, rfl⟩
  · obtain ⟨t, r', hok⟩ := (emit_ok_iff_wellFormed {} rfl rfl {}).2 h
    have hfails : ∃ err s, emit {} (guardedLoop []) {} = .error err s := ⟨_, _, rfl⟩
    obtain ⟨err, s, herr⟩ := hfails
    rw [herr] at hok
    cases hok

end Emitter

end FormScript
