import Mathlib.Logic.Relation
import StaticContext.Proofs.LoadSteps
import StaticContext.Proofs.SessionTracking
import StaticContext.Proofs.TrackerOrder

/-! # Loads that run side by side

Several loads share the tracker, and at any moment one of them takes a step. None sees what the
others do before its own write, and a write concerns the entry of one file. So whatever the order of
the steps, every load ends as it does alone, and once all have ended the tracker is that of the loads
one after the other, whichever comes first. -/

namespace StaticContext
open StaticContext.Path

/-! ## What a load is going to write -/

namespace Load

/-- What an outcome writes; nothing if it is a failure. -/
def written (outcome : Except ContextError (Source × Report)) : Option Tracker.Write :=
  outcome.toOption.map fun (source, report) => (source.path, report.output)

/-- What a load is still going to write. -/
def write (s : Storage) : Load → Option Tracker.Write
  | .ended _ => none
  | load => written (load.outcome s)

/-- What a load gave, if it has ended. -/
def result? : Load → Option (Except ContextError Report)
  | .ended outcome => some (outcome.map Prod.snd)
  | _ => none

/-- A step of a load is not its write: it ends a load only by a failure. -/
theorem Works.write_eq {s : Storage} {load load' : Load} (h : Works s load load')
    (honce : Walk.FailsOnce s.list (load.WillVisit s)) : load'.write s = load.write s := by
  have hbefore : load.write s = written (load.outcome s) := by
    cases h <;> rfl
  have hafter : load'.write s = written (load'.outcome s) := by
    cases h with
    | reads =>
      unfold read begun
      repeat' split
      all_goals rfl
    | lists | breaks | joins => rfl
  rw [hbefore, hafter, h.outcome_eq honce]

theorem path_of_write {s : Storage} {path : Path} {w : Tracker.Write}
    (h : w ∈ write s (.asked path)) : path.from? s.workingDirectory = some w.1 := by
  obtain ⟨⟨source, report⟩, hreport, rfl⟩ := Option.map_eq_some_iff.mp h
  exact (Source.load_ok (Plugin.report_ok.mp (Traversal.ok_of_toOption hreport)).1).1

end Load

/-! ## Steps of several loads -/

/-- Loads under way, and the tracker they share. -/
structure Loads where
  tracker : Tracker
  loads : List Load

namespace Loads

/-- Nothing is done yet. -/
def asked (t : Tracker) (paths : List Path) : Loads := ⟨t, paths.map .asked⟩

def Ended (l : Loads) : Prop := ∀ load ∈ l.loads, load.result?.isSome = true

/-- One of the loads takes a step. -/
inductive Step (s : Storage) : Loads → Loads → Prop where
  | works {t : Tracker} {before after : List Load} {load load' : Load}
      (works : load.Works s load') :
      Step s ⟨t, before ++ load :: after⟩ ⟨t, before ++ load' :: after⟩
  | writes {t : Tracker} {before after : List Load} {source : Source} {report : Report} :
      Step s ⟨t, before ++ .writing source report :: after⟩
        ⟨t.follow source.path report.output, before ++ .ended (.ok (source, report)) :: after⟩

/-- The tracker after all that is still to be written, in the order of the requests. -/
def settled (s : Storage) (l : Loads) : Tracker :=
  (l.loads.map (Load.write s)).foldl Tracker.settle l.tracker

/-- What the loads have to do with one another, and with the storage. -/
structure Sound (s : Storage) (l : Loads) : Prop where
  once : ∀ load ∈ l.loads, Walk.FailsOnce s.list (load.WillVisit s)
  apart : (l.loads.map (Load.write s)).Pairwise Tracker.Apart

/-- What a step keeps: how the loads are going to end, and what the tracker is going to hold. -/
structure Keeps (s : Storage) (l l' : Loads) : Prop where
  sound : Sound s l'
  outcomes : l'.loads.map (Load.outcome s) = l.loads.map (Load.outcome s)
  settled : (l'.settled s).entries.Perm (l.settled s).entries

theorem Keeps.trans {s : Storage} {l l' l'' : Loads} (h : Keeps s l l') (h' : Keeps s l' l'') :
    Keeps s l l'' :=
  ⟨h'.sound, h'.outcomes.trans h.outcomes, h'.settled.trans h.settled⟩

theorem Sound.replace {s : Storage} {t t' : Tracker} {before after : List Load} {load load' : Load}
    (h : Sound s ⟨t, before ++ load :: after⟩)
    (honce : Walk.FailsOnce s.list (load'.WillVisit s))
    (hwrite : load'.write s = load.write s ∨ load'.write s = none) :
    Sound s ⟨t', before ++ load' :: after⟩ where
  once other hm := by
    rcases List.mem_append.mp hm with hm | hm
    · exact h.once other (List.mem_append_left _ hm)
    · rcases List.mem_cons.mp hm with rfl | hm
      · exact honce
      · exact h.once other (List.mem_append_right _ (List.mem_cons_of_mem _ hm))
  apart := by
    have hapart := h.apart
    simp only [List.map_append, List.map_cons] at hapart ⊢
    rcases hwrite with hsame | hnone
    · rwa [hsame]
    · rw [hnone]
      rw [List.pairwise_append, List.pairwise_cons] at hapart ⊢
      obtain ⟨hbefore, ⟨_, hafter⟩, hacross⟩ := hapart
      refine ⟨hbefore, ⟨fun _ _ => nofun, hafter⟩, fun w hw w' hw' => ?_⟩
      rcases List.mem_cons.mp hw' with rfl | hw'
      · exact fun _ _ => nofun
      · exact hacross w hw w' (List.mem_cons_of_mem _ hw')

theorem Step.keeps {s : Storage} {l l' : Loads} (h : Step s l l') (hl : Sound s l) :
    Keeps s l l' := by
  cases h with
  | @works t before after load load' works =>
    have honce := hl.once load (by simp)
    have hwrite := works.write_eq honce
    refine ⟨hl.replace (honce.mono fun _ => works.willVisit) (.inl hwrite), ?_, ?_⟩
    · simp only [List.map_append, List.map_cons, works.outcome_eq honce]
    · simp only [settled, List.map_append, List.map_cons, hwrite]
      rfl
  | @writes t before after source report =>
    refine ⟨hl.replace (fun _ _ _ _ => nofun) (.inr rfl), ?_, ?_⟩
    · simp only [List.map_append, List.map_cons, Load.outcome]
    · have hapart := hl.apart
      simp only [settled, List.map_append, List.map_cons] at hapart ⊢
      exact (Tracker.settle_first hapart t).symm

theorem keeps_run {s : Storage} {l l' : Loads} (h : Relation.ReflTransGen (Step s) l l')
    (hl : Sound s l) : Keeps s l l' := by
  induction h with
  | refl => exact ⟨hl, rfl, .refl _⟩
  | tail _ hstep ih => exact ih.trans (hstep.keeps ih.sound)

/-! ## The end of all loads -/

/-- Until all loads have ended, one of them can take a step. -/
theorem ended_or_step (s : Storage) (l : Loads) : l.Ended ∨ ∃ l', Step s l l' := by
  by_cases hall : l.Ended
  · exact .inl hall
  · obtain ⟨load, hm, hopen⟩ : ∃ load ∈ l.loads, ¬ load.result?.isSome = true := by
      simpa only [Ended, not_forall, exists_prop] using hall
    obtain ⟨t, loads⟩ := l
    obtain ⟨before, after, rfl⟩ := List.append_of_mem hm
    rcases load.works_or_writes s with ⟨_, rfl⟩ | ⟨_, _, rfl⟩ | ⟨load', hworks⟩
    · exact absurd rfl hopen
    · exact .inr ⟨_, .writes⟩
    · exact .inr ⟨_, .works hworks⟩

def work (s : Storage) (l : Loads) : Nat := (l.loads.map (Load.work s)).sum

theorem Step.work_lt {s : Storage} {l l' : Loads} (h : Step s l l') : l'.work s < l.work s := by
  cases h with
  | works works =>
    have hlt := works.work_lt
    simp only [work, List.map_append, List.map_cons, List.sum_append, List.sum_cons]
    omega
  | writes =>
    simp only [work, List.map_append, List.map_cons, List.sum_append, List.sum_cons, Load.work]
    omega

/-- No run goes on for ever. -/
theorem wellFounded_step (s : Storage) : WellFounded fun later earlier => Step s earlier later :=
  Subrelation.wf (fun h => h.work_lt) (measure (work s)).wf

theorem settled_of_ended {s : Storage} {l : Loads} (h : l.Ended) : l.settled s = l.tracker := by
  obtain ⟨t, loads⟩ := l
  simp only [settled]
  induction loads with
  | nil => rfl
  | cons load rest ih =>
    have hrest := ih fun load hm => h load (List.mem_cons_of_mem _ hm)
    cases load with
    | ended outcome => exact hrest
    | asked | searching | writing => exact absurd (h _ List.mem_cons_self) nofun

end Loads

/-! ## One after the other -/

theorem Plugin.load_fst (p : Plugin) (s : Storage) (path : Path) :
    (p.load s path).1 = (report s path).map Prod.snd := by
  unfold load
  cases report s path <;> rfl

theorem Plugin.tracker_settle (p : Plugin) (s : Storage) (path : Path) :
    (p.load s path).2.tracker = p.tracker.settle (Load.write s (.asked path)) := by
  unfold load
  simp only [Load.write, Load.outcome]
  cases report s path <;> rfl

namespace Session

theorem run_loads (s : Storage) (p : Plugin) (paths : List Path) :
    ∃ p', (Session.mk s p).run (paths.map .load) = ⟨s, p'⟩ ∧
      p'.tracker = (paths.map fun path => Load.write s (.asked path)).foldl Tracker.settle
        p.tracker := by
  induction paths generalizing p with
  | nil => exact ⟨p, rfl, rfl⟩
  | cons path rest ih =>
    obtain ⟨p', hrun, ht⟩ := ih (p.load s path).2
    refine ⟨p', hrun, ?_⟩
    rw [ht, Plugin.tracker_settle, List.map_cons, List.foldl_cons]

/-- The answers of a session, step by step. -/
def replies (s : Session) : List Step → List Reply
  | [] => []
  | step :: rest => s.reply step :: (s.after step).replies rest

/-- Sessions whose trackers hold the same. -/
structure Alike (s s' : Session) : Prop where
  storage : s.storage = s'.storage
  entries : s.plugin.tracker.entries.Perm s'.plugin.tracker.entries

theorem Alike.reply {s s' : Session} (h : Alike s s') (step : Step) : s.reply step = s'.reply step := by
  obtain ⟨storage, p⟩ := s
  obtain ⟨_, p'⟩ := s'
  cases h.storage
  have hsame := Tracker.alike_of_perm h.entries
  cases step with
  | load path => simp only [Session.reply, Plugin.load_fst]
  | change path =>
    simp only [Session.reply, Plugin.staleEvents, Plugin.staleAfter_eq, hsame.affectedBy]
  | remove file => simp only [Session.reply, Tracker.tracks, hsame.directoriesFor]
  | edit change => cases change <;> rfl
  | record | clear => rfl

theorem Alike.after {s s' : Session} (h : Alike s s') (step : Step) :
    Alike (s.after step) (s'.after step) := by
  obtain ⟨storage, p⟩ := s
  obtain ⟨_, p'⟩ := s'
  cases h.storage
  have hentries := h.entries
  cases step with
  | load path =>
    refine ⟨rfl, ?_⟩
    simp only [Session.after, Plugin.tracker_settle]
    exact Tracker.perm_settle hentries _
  | change path => exact h
  | record file directories => exact ⟨rfl, Tracker.perm_put hentries p.tracker.distinct _ _⟩
  | remove file => exact ⟨rfl, hentries.filter _⟩
  | clear => exact ⟨rfl, .refl _⟩
  | edit change => exact ⟨rfl, hentries⟩

/-- No steps tell such sessions apart. -/
theorem Alike.replies {s s' : Session} (h : Alike s s') (steps : List Step) :
    s.replies steps = s'.replies steps := by
  induction steps generalizing s s' with
  | nil => rfl
  | cons step rest ih => rw [Session.replies, Session.replies, h.reply step, ih (h.after step)]

end Session

/-! ## Loads of different files -/

/-- The paths are not of one file. -/
def Path.Elsewhere (wd : Option AbsolutePath) (path path' : Path) : Prop :=
  ∀ file ∈ path.from? wd, ∀ file' ∈ path'.from? wd, file.components ≠ file'.components

namespace Loads

variable {s : Storage} {paths : List Path}

theorem pairwise_apart (h : paths.Pairwise (Elsewhere s.workingDirectory)) :
    (paths.map fun path => Load.write s (.asked path)).Pairwise Tracker.Apart := by
  refine List.pairwise_map.mpr (h.imp ?_)
  intro path path' hne w hw w' hw'
  exact hne _ (Load.path_of_write hw) _ (Load.path_of_write hw')

theorem sound_asked (h : paths.Pairwise (Elsewhere s.workingDirectory))
    (honce : ∀ path ∈ paths, Walk.FailsOnce s.list (Plugin.Visits s path)) (t : Tracker) :
    Sound s (.asked t paths) where
  once load hm := by
    obtain ⟨path, hpath, rfl⟩ := List.mem_map.mp hm
    exact honce path hpath
  apart := by
    have hwrites : ((asked t paths).loads.map (Load.write s)) =
        paths.map fun path => Load.write s (.asked path) := List.map_map
    rw [hwrites]
    exact pairwise_apart h

/-- In whatever order the loads of different files are made, the tracker comes to hold the same. -/
theorem run_perm (h : paths.Pairwise (Elsewhere s.workingDirectory)) (p : Plugin)
    {order : List Path} (horder : order.Perm paths) :
    Session.Alike ((Session.mk s p).run (order.map .load))
      ((Session.mk s p).run (paths.map .load)) := by
  obtain ⟨q, hq, htq⟩ := Session.run_loads s p order
  obtain ⟨q', hq', htq'⟩ := Session.run_loads s p paths
  rw [hq, hq']
  refine ⟨rfl, ?_⟩
  rw [htq, htq']
  exact (Tracker.settleAll_perm (horder.symm.map _) (pairwise_apart h) p.tracker).symm

/-- What has ended gave what it gives alone. -/
theorem results_of_keeps {t : Tracker} {l : Loads} (h : Keeps s (.asked t paths) l) (p : Plugin) :
    List.Forall₂ (fun path load => ∀ result ∈ load.result?, result = (p.load s path).1) paths
      l.loads := by
  have houtcomes : l.loads.map (Load.outcome s) = paths.map (Plugin.report s) :=
    h.outcomes.trans List.map_map
  have hall : List.Forall₂ (fun path load => load.outcome s = Plugin.report s path) paths l.loads := by
    rw [← List.forall₂_map_left_iff (f := Plugin.report s) (R := fun o load => Load.outcome s load = o),
      ← houtcomes, List.forall₂_map_left_iff]
    exact List.forall₂_same.mpr fun _ _ => rfl
  refine hall.imp fun path load hload result hresult => ?_
  cases load with
  | ended outcome =>
    cases hresult
    rw [Plugin.load_fst, ← hload]
    rfl
  | asked | searching | writing => cases hresult

/-- Loads of different files do not interfere. No run of theirs goes on for ever or gets stuck; what a
load gives is what it gives alone, whatever the others have done by then; and when all have ended, no
question tells the tracker from that of the loads one after the other, in any order. To permute the
loads of a session changes none of its answers. -/
theorem interleave (p : Plugin) (hfiles : paths.Pairwise (Elsewhere s.workingDirectory))
    (honce : ∀ path ∈ paths, Walk.FailsOnce s.list (Plugin.Visits s path)) :
    (WellFounded fun later earlier => Step s earlier later) ∧
    (∀ l, Relation.ReflTransGen (Step s) (.asked p.tracker paths) l →
      (l.Ended ∨ ∃ l', Step s l l') ∧
      List.Forall₂ (fun path load => ∀ result ∈ load.result?, result = (p.load s path).1) paths
        l.loads ∧
      (l.Ended → ∀ order : List Path, order.Perm paths →
        l.tracker.Alike ((Session.mk s p).run (order.map .load)).plugin.tracker)) ∧
    ∀ order : List Path, order.Perm paths →
      (∀ front path rest, order = front ++ path :: rest →
        ((Session.mk s p).run (front.map .load)).reply (.load path) =
          .loaded (p.load s path).1) ∧
      ((Session.mk s p).run (order.map .load)).plugin.tracker.Alike
        ((Session.mk s p).run (paths.map .load)).plugin.tracker ∧
      ∀ steps, ((Session.mk s p).run (order.map .load)).replies steps =
        ((Session.mk s p).run (paths.map .load)).replies steps := by
  refine ⟨wellFounded_step s, fun l hrun => ?_, fun order horder => ?_⟩
  · have hkeeps := keeps_run hrun (sound_asked hfiles honce p.tracker)
    refine ⟨ended_or_step s l, results_of_keeps hkeeps p, fun hended order horder => ?_⟩
    have hsettled := hkeeps.settled
    rw [settled_of_ended hended] at hsettled
    obtain ⟨q, hq, ht⟩ := Session.run_loads s p paths
    refine Tracker.alike_of_perm (hsettled.trans ?_)
    refine List.Perm.trans ?_ (run_perm hfiles p horder).entries.symm
    rw [hq, ht, settled, asked, List.map_map]
    rfl
  · have hsame := run_perm hfiles p horder
    refine ⟨fun front path rest _ => ?_, Tracker.alike_of_perm hsame.entries, hsame.replies⟩
    obtain ⟨q, hq, _⟩ := Session.run_loads s p front
    rw [hq]
    simp only [Session.reply, Plugin.load_fst]

/-- Two files that ask for one directory each. -/
def forkA : Source := ⟨.ofString "/a.js", "require.context('./d')"⟩

def forkB : Source := ⟨.ofString "/b.js", "require.context('./e')"⟩

/-- The directory that the first one asks for is closed to readers. -/
def fork : Storage :=
  ((((Storage.empty.put forkA.path (.file forkA.text.toUTF8.toList)).put
    forkB.path (.file forkB.text.toUTF8.toList)).put (.ofString "/e/y.js") (.file [])).put
    (.ofString "/d") .directory).obstruct (.ofString "/d") ⟨.system 13, none⟩

theorem interleave_fork :
    [forkA.path, forkB.path].Pairwise (Elsewhere fork.workingDirectory) ∧
    (∀ path ∈ [forkA.path, forkB.path], Walk.FailsOnce fork.list (Plugin.Visits fork path)) ∧
    ∀ l, Relation.ReflTransGen (Step fork) (.asked .empty [forkA.path, forkB.path]) l → l.Ended →
      l.tracker.directoriesFor forkA.path = none ∧
      l.tracker.directoriesFor forkB.path = some [.ofString "/e"] := by
  have hfiles : [forkA.path, forkB.path].Pairwise (Elsewhere fork.workingDirectory) := by
    refine List.pairwise_pair.mpr fun file hfile file' hfile' => ?_
    have ha : forkA.path.from? fork.workingDirectory = some forkA.path := by decide +kernel
    have hb : forkB.path.from? fork.workingDirectory = some forkB.path := by decide +kernel
    cases ha.symm.trans hfile
    cases hb.symm.trans hfile'
    decide +kernel
  have hvisits : ∀ (source : Source) (call : ContextCall) (target : Path),
      Source.load fork source.path = .ok source →
      source.parse.toOption.map ContextCall.inProgram = some [call] →
      call.targetDirectory source.directory = target →
      ∀ dir, Plugin.Visits fork source.path dir → ∃ names,
        Walk.Visits fork.list call.recursive target names ∧ dir = target.descend names := by
    intro source call target hload hcalls htarget dir hv
    obtain ⟨program, hparse, hcall⟩ := Option.map_eq_some_iff.mp hcalls
    cases hv with
    | intro loaded mentions parsed found compiled visits =>
      cases hload.symm.trans loaded
      cases (Traversal.ok_of_toOption hparse).symm.trans parsed
      rw [hcall] at found
      cases List.mem_singleton.mp found
      rw [htarget] at visits ⊢
      exact ⟨_, visits, rfl⟩
  have hone := hvisits forkA ⟨⟨0, 22⟩, "./d", true, none⟩ (.ofString "/d")
    (by decide +kernel) (by decide +kernel) (by decide +kernel)
  have htwo := hvisits forkB ⟨⟨0, 22⟩, "./e", true, none⟩ (.ofString "/e")
    (by decide +kernel) (by decide +kernel) (by decide +kernel)
  have honce : ∀ path ∈ [forkA.path, forkB.path],
      Walk.FailsOnce fork.list (Plugin.Visits fork path) := by
    intro path hpath
    rw [List.mem_pair] at hpath
    rcases hpath with rfl | rfl
    · -- nothing is visited behind the closed directory
      have hclosed : fork.list (.ofString "/d") = .error (.system 13) := by decide +kernel
      have hd : ∀ dir, Plugin.Visits fork forkA.path dir → dir = .ofString "/d" := by
        intro dir hv
        obtain ⟨names, hwalk, rfl⟩ := hone dir hv
        cases hwalk with
        | start => rfl
        | step _ opened => rw [hclosed] at opened; cases opened
      intro dir dir' _ _ hv hv' _ _
      rw [hd dir hv, hd dir' hv']
    · intro dir dir' e _ hv _ hfails _
      obtain ⟨names, hwalk, rfl⟩ := htwo dir hv
      have hends := Walk.ends_files fork (.ofString "/e") true (ContextCall.accepts none)
      exact absurd hfails
        (hends.not_fails [.ofString "/e/y.js"] (by decide +kernel) names hwalk e)
  refine ⟨hfiles, honce, fun l hrun hended => ?_⟩
  have hsame := ((interleave (.new default) hfiles honce).2.1 l hrun).2.2 hended
    [forkA.path, forkB.path] (.refl _)
  rw [hsame.directoriesFor, hsame.directoriesFor]
  exact ⟨by decide +kernel, by decide +kernel⟩

end Loads
end StaticContext
