import StaticContext.Proofs.Grammar.TypeExpression
import StaticContext.Script.Grammar.Element

/-! # Elements keep to the text -/

namespace StaticContext.Script
open Reads Script.Tree

variable {text : List Char} {scope : Scope} {s : ReadState}

/-- What follows only where the current token is the mark. -/
theorem Reads.ensures_atMark_only {β : Type} {mark : String} {r : Reads β} {Q : β → ReadState → Prop}
    (h : s.token.isMark mark → Ensures r scope s Q) :
    Ensures (do unless ← atMark mark do expectMark mark
                r) scope s Q := by
  refine ensures_bind.mpr (ensures_atMark.mpr (ensures_ite.mpr ⟨h, fun hmark => ?_⟩))
  exact ensures_bind.mpr (ensures_expectMark.mpr fun h => absurd h hmark)

/-- The text up to a quote, with the quote. -/
theorem take_quoted {q : Char} {rest : List Char}
    (h : (rest.takeWhile (· != q)).length ≠ rest.length) :
    (q :: rest).take ((rest.takeWhile (· != q)).length + 2) =
      (q :: rest.takeWhile (· != q)) ++ [q] := by
  obtain ⟨htake, hdrop⟩ := take_drop_takeWhile (· != q) rest
  have hne : rest.dropWhile (· != q) ≠ [] := fun hnil => by
    have := congrArg List.length (List.takeWhile_append_dropWhile (p := (· != q)) (l := rest))
    rw [hnil, List.append_nil] at this
    exact h this
  obtain ⟨d, more, hd⟩ := List.exists_cons_of_ne_nil hne
  have hdq : d = q := by
    have := List.head?_dropWhile_not (· != q) rest
    rw [hd] at this
    simpa using this
  rw [List.take_succ_cons, List.take_add, htake, hdrop, hd, hdq]
  rfl

namespace Grammar

variable {g : Grammar} [g.Faithful text]

instance : Keeps text elementWord fun _ => True := by
  refine ⟨fun scope s hs => ensures_bind.mpr (ensures_current.mpr ?_)⟩
  split
  · next h =>
    have hright : s.token.kind.isRight := by rw [h]; rfl
    refine (ensures_reread_fits hs hright dashedName_fits).bind fun t s ⟨hs, heq, c, hc⟩ => ?_
    have hright : s.token.kind.isRight := by rw [heq, hc]; rfl
    exact .take hs hright fun hs => ensures_pure.mpr ⟨hs, trivial⟩
  · exact ensures_unexpected

instance : Keeps text tagName fun _ => True := by
  unfold tagName
  infer_instance

/-- The closing brace is left to take. -/
theorem container_ensures (hs : s.Sited text) : Ensures (container g) scope s fun t s' =>
    (s'.Sited text ∧ t.Faithful text) ∧ s'.token.isMark "\x7d" := by
  refine .step hs fun _ s hs _ => .step hs fun _ s hs _ => ensures_ite.mpr ⟨fun _ => ?_, fun _ => ?_⟩
  · refine .step hs fun e s hs he => ensures_atMark_only fun h => ensures_pure.mpr ?_
    exact ⟨⟨hs, faithful_node rfl (by simp [he])⟩, h⟩
  · refine ensures_bind.mpr (ensures_atMark.mpr (ensures_ite.mpr ⟨fun h => ensures_pure.mpr ?_, ?_⟩))
    · exact ⟨⟨hs, faithful_node rfl (by simp [absent, faithful_leaf])⟩, h⟩
    refine fun _ => .step hs fun e s hs he => ensures_atMark_only fun h => ensures_pure.mpr ?_
    exact ⟨⟨hs, faithful_node rfl (by simp [he])⟩, h⟩

instance : Keeps text (container g) (Tree.Faithful text) :=
  ⟨fun _ _ hs => (container_ensures hs).mono fun _ _ h => h.1⟩

/-- A value is read behind the `=`. -/
theorem attributeValue_ensures (hs : s.Sited text) (hright : s.token.kind.isRight) :
    Ensures (attributeValue g) scope s fun t s' => s'.Sited text ∧ t.Faithful text := by
  refine (ensures_advanceRaw hs hright).bind fun c s hc => ?_
  have hrest (s : ReadState) : Ensures (do
      resume c
      if ← atMark "<" then
        let e ← g.element
        expectMark ">"
        return e
      let e ← container g
      expectMark "\x7d"
      return e) scope s fun t s' => s'.Sited text ∧ t.Faithful text := by
    refine (ensures_resume hc).bind fun _ s hs => .step hs fun _ s hs _ => ensures_ite.mpr ⟨?_, ?_⟩
    · refine fun _ => .step hs fun e s hs he => .step hs fun _ s hs _ => ensures_pure.mpr ?_
      exact ⟨hs, he.faithful⟩
    · refine fun _ => .step hs fun e s hs he => .step hs fun _ s hs _ => ensures_pure.mpr ?_
      exact ⟨hs, he⟩
  extract_lets d rest
  obtain ⟨before, hc, -⟩ := hc
  have hd : ∃ before, d.Behind text before := by
    unfold d
    split
    · next hskip =>
      obtain ⟨gap, hskips, -⟩ := Gap.skip_ok hskip
      exact ⟨_, hc.gap hskips⟩
    · exact ⟨before, hc⟩
  obtain ⟨before, hd⟩ := hd
  split
  · next q more hmore =>
    refine ensures_ite.mpr ⟨fun hq => ?_, fun _ => hrest s⟩
    extract_lets content
    refine ensures_ite.mpr ⟨fun _ => ensures_bind.mpr ensures_failAt, fun hclosed => ?_⟩
    have hfree : (d.skip (content.length + 2)).Free text := by
      refine hd.free_skip (d := q) ⟨q :: content, ?_⟩ (by rcases hq with rfl | rfl <;> decide)
      rw [hmore]
      exact take_quoted hclosed
    exact (ensures_resume hfree).bind fun _ s hs => ensures_pure.mpr ⟨hs, faithful_leaf _⟩
  · exact hrest s

instance : Keeps text (attributeTree g) (Tree.Faithful text) := by
  refine .bind fun _ _ => .ite (fun _ => .bind fun _ _ => .bind fun e he => ?_) fun _ => ?_
  · exact .bind fun _ _ => .pure (faithful_node rfl (by simp [he]))
  refine .bind fun first _ => .bind fun _ _ => ?_
  extract_lets named
  have hnamed (name : String) : Keeps text (named name) (Tree.Faithful text) := by
    refine ⟨fun scope s hs => ensures_bind.mpr (ensures_atMark.mpr ?_)⟩
    extract_lets valued
    have hvalued (value : Tree) (s : ReadState) (hs : s.Sited text) (hvalue : value.Faithful text) :
        Ensures (valued value) scope s fun t s' => s'.Sited text ∧ t.Faithful text :=
      ensures_pure.mpr ⟨hs, faithful_node rfl (by simp [hvalue])⟩
    refine ensures_ite.mpr ⟨fun h => ?_, fun _ => hvalued _ s hs (faithful_leaf _)⟩
    exact (attributeValue_ensures hs (Token.isRight_of_isMark h)).bind fun value s hvalue =>
      hvalued value s hvalue.1 hvalue.2
  exact .ite (fun _ => .bind fun _ _ => hnamed _) fun _ => hnamed _

theorem elementChildren_ensures (hs : s.Sited text) (hright : s.token.kind.isRight) (tag : String) :
    Ensures (elementChildren g tag) scope s fun ts s' =>
      (s'.Sited text ∧ ∀ t ∈ ts, t.Faithful text) ∧ s'.token.isMark ">" := by
  refine (ensures_advanceRaw hs hright).bind fun c s hc => ?_
  refine ensures_loop (fun (r : Cursor × List Tree) _ =>
    r.1.Free text ∧ ∀ t ∈ r.2, t.Faithful text) ⟨hc, nofun⟩ ?_
  rintro ⟨c, done⟩ s ⟨hc, hdone⟩
  dsimp -zeta only at hc hdone ⊢
  extract_lets content done' d closed further
  have hdone' : ∀ t ∈ done', t.Faithful text := by
    unfold done'
    split
    · exact hdone
    · exact List.forall_mem_cons.mpr ⟨faithful_leaf _, hdone⟩
  have hd : d.Free text := by
    obtain ⟨before, hc, -⟩ := hc
    refine ⟨_, hc.skip _, fun hr => ?_⟩
    have := head?_drop_takeWhile (fun d => d != '<' && d != '{') c.rest
    rw [show c.rest.drop content.length = d.rest from rfl, hr] at this
    cases this
  refine ensures_ite.mpr ⟨fun _ => ensures_bind.mpr ensures_failAt, fun _ => ?_⟩
  refine (ensures_resume hd).bind fun _ s hs => ensures_bind.mpr (ensures_atMark.mpr ?_)
  refine ensures_ite.mpr ⟨fun _ => ?_, fun _ => ?_⟩
  · refine (container_ensures hs).bind fun child s ⟨⟨hs, hchild⟩, hmark⟩ => ?_
    refine (ensures_advanceRaw hs (Token.isRight_of_isMark hmark)).bind fun c s hc => ?_
    exact ensures_pure.mpr ⟨hc, List.forall_mem_cons.mpr ⟨hchild, hdone'⟩⟩
  refine .step hs fun start s hs _ => .step hs fun _ s hs _ => ensures_ite.mpr ⟨fun _ => ?_, fun _ => ?_⟩
  · refine .step hs fun _ s hs _ => .step hs fun _ s hs _ => .step hs fun _ s hs _ => ?_
    extract_lets ended
    have hended (closing : String) (s : ReadState) (hs : s.Sited text) :
        Ensures (ended closing) scope s fun r s' =>
          r.elim (fun r => r.1.Free text ∧ ∀ t ∈ r.2, t.Faithful text) fun ts =>
            (s'.Sited text ∧ ∀ t ∈ ts, t.Faithful text) ∧ s'.token.isMark ">" := by
      refine ensures_atMark_only fun h => ?_
      refine ensures_ite.mpr ⟨fun _ => ensures_bind.mpr ensures_failAt, fun _ => ?_⟩
      exact ensures_pure.mpr ⟨⟨hs, fun t ht => hdone' t (List.mem_reverse.mp ht)⟩, h⟩
    exact ensures_ite.mpr ⟨fun _ => hended _ s hs, fun _ => .step hs fun _ s hs _ => hended _ s hs⟩
  · refine (Faithful.element scope s hs).bind fun child s ⟨⟨hs, hchild⟩, hmark⟩ => ?_
    refine (ensures_advanceRaw hs (Token.isRight_of_isMark hmark)).bind fun c s hc => ?_
    exact ensures_pure.mpr ⟨hc, List.forall_mem_cons.mpr ⟨hchild.faithful, hdone'⟩⟩

theorem elementTree_ensures (hs : s.Sited text) : Ensures (elementTree g) scope s fun t s' =>
    (s'.Sited text ∧ t.Compound text) ∧ s'.token.isMark ">" := by
  refine .step hs fun _ s hs _ => ensures_bind.mpr (ensures_atMark.mpr ?_)
  refine ensures_ite.mpr ⟨fun h => ?_, fun _ => ?_⟩
  · refine (elementChildren_ensures hs (Token.isRight_of_isMark h) "").bind fun ts s hts => ?_
    exact ensures_pure.mpr ⟨⟨hts.1.1, faithful_node rfl hts.1.2, rfl⟩, hts.2⟩
  refine .step hs fun tag s hs _ => .step hs fun _ s hs _ => .step hs fun _ s hs _ => ?_
  extract_lets applied
  have happlied (typeArgs : Tree) (s : ReadState) (hs : s.Sited text)
      (htypeArgs : typeArgs.Faithful text) : Ensures (applied typeArgs) scope s fun t s' =>
        (s'.Sited text ∧ t.Compound text) ∧ s'.token.isMark ">" := by
    refine (ensures_many (T := fun s => s.token.isMark ">" ∨ s.token.isMark "/") hs
      fun s hs => ?_).bind fun attributes s ⟨⟨hs, hattributes⟩, hend⟩ => ?_
    · refine ensures_bind.mpr (ensures_atMark.mpr (ensures_bind.mpr (ensures_atMark.mpr ?_)))
      exact ensures_pure.mpr ⟨hs, by simp⟩
    refine ensures_bind.mpr (ensures_eatMark.mpr ⟨fun h => ?_, fun h => ?_⟩)
    · refine ensures_atMark_only fun h' => ensures_pure.mpr ⟨⟨?_, ?_⟩, h'⟩
      · exact hs.advanced (Token.isRight_of_isMark h)
      · have hnone : (Tree.list []).Faithful text := faithful_leaf _
        exact ⟨faithful_node rfl (by simp [faithful_list hattributes, hnone, htypeArgs]), rfl⟩
    · refine (elementChildren_ensures hs (Token.isRight_of_isMark (hend.resolve_right h)) tag).bind
        fun children s hchildren => ensures_pure.mpr ⟨⟨hchildren.1.1, ?_⟩, hchildren.2⟩
      have := faithful_list hchildren.1.2
      exact ⟨faithful_node rfl (by simp [faithful_list hattributes, htypeArgs, this]), rfl⟩
  refine ensures_ite.mpr ⟨fun _ => .step hs fun typeArgs s hs h => happlied _ s hs h, fun _ => ?_⟩
  exact happlied _ s hs (faithful_leaf _)

end Grammar
end StaticContext.Script
