import Mathlib
import NativeExports.Proofs.ReferenceBinding
/-!
Purpose: what the search steps are asked during a load.

Binding runs its search steps in any monad with faults.  Run in `Watched`, a monad whose log
survives a failure, with each step writing down the questions put to it (`watchSteps`), a
load shows which step was asked about which reference.  Here:

* `Follows x y clean pre post` says that a watched computation `x` gives what the unwatched
  `y` gives, only adds to the log, keeps it `clean`, and leaves `post` on success.  It is closed
  under binds and folds, like `Settled`.
* `watched_firstFound`: the watched search asks its steps in order, from the first, each once,
  until one answers.
* `watched_bindReference`: a watched binding follows the unwatched one; the search is asked
  only about references that are not the base library and whose keys the table does not know,
  and each key it is asked about is known afterwards.

Main result: `load_settles_and_searches_once`: a watched load gives what the load gives, and
its log asks no step twice about one key, never about the base library, and never about an
input's key.
-/

namespace NativeExports

/-- The questions put to the search steps: the position of the step asked and the reference
it was asked about, in the order asked. -/
abbrev SearchLog := List (Nat × Identity)

/-- Computations that may fail and keep a log of search questions; the log survives a
failure, as a question once asked stays asked. -/
abbrev Watched := ExceptT Fault (StateM SearchLog)

/-- A search step that writes down each question before answering it as `f` does. -/
def watchStep (i : Nat) (f : Finder (Except Fault)) : Finder Watched := fun ref src => do
  modify (· ++ [(i, ref)])
  MonadExcept.ofExcept (f ref src)

/-- The search steps from position `i` on, each writing down its questions. -/
def watchSteps : Nat → List (Finder (Except Fault)) → List (Finder Watched)
  | _, [] => []
  | i, f :: fs => watchStep i f :: watchSteps (i + 1) fs

namespace Watched

variable {α β : Type}

/-- A watched computation run from a log: its result and the log it leaves. -/
def go (x : Watched α) (l : SearchLog) : Except Fault α × SearchLog := x.run.run l

@[simp] theorem go_pure (a : α) (l : SearchLog) : (pure a : Watched α).go l = (.ok a, l) := rfl

@[simp] theorem go_throw (e : Fault) (l : SearchLog) :
    (throw e : Watched α).go l = (.error e, l) := rfl

@[simp] theorem go_ofExcept (x : Except Fault α) (l : SearchLog) :
    (MonadExcept.ofExcept x : Watched α).go l = (x, l) := by
  cases x <;> rfl

@[simp] theorem go_modify (f : SearchLog → SearchLog) (l : SearchLog) :
    (modify f : Watched PUnit).go l = (.ok ⟨⟩, f l) := rfl

theorem go_bind (x : Watched α) (f : α → Watched β) (l : SearchLog) :
    (x >>= f).go l = match x.go l with
      | (.ok a, l') => (f a).go l'
      | (.error e, l') => (.error e, l') := by
  simp only [go, ExceptT.run_bind, StateT.run_bind]
  rcases x.run.run l with ⟨_ | a, l'⟩ <;> simp <;> rfl

theorem go_tryCatch (x : Watched α) (h : Fault → Watched α) (l : SearchLog) :
    (tryCatch x h).go l = match x.go l with
      | (.ok a, l') => (.ok a, l')
      | (.error e, l') => (h e).go l' := by
  simp only [go, ExceptT.run_tryCatch, StateT.run_bind]
  rcases x.run.run l with ⟨_ | a, l'⟩ <;> simp <;> rfl

end Watched

/-! ### Following an unwatched computation -/

/-- A watched computation follows an unwatched one: from every log that is `clean` and that
`pre` allows, it gives the same result, adds to the log, leaves it clean, and on success
leaves `post` of the result and the log. -/
def Follows {α : Type} (x : Watched α) (y : Except Fault α) (clean : SearchLog → Prop)
    (pre : SearchLog → Prop) (post : α → SearchLog → Prop) : Prop :=
  ∀ l, clean l → pre l → ∃ asked, x.go l = (y, l ++ asked) ∧ clean (l ++ asked) ∧
    ∀ a, y = .ok a → post a (l ++ asked)

namespace Follows

variable {α β : Type} {clean pre : SearchLog → Prop}

theorem of_go {x : Watched α} {y : Except Fault α} {post : α → SearchLog → Prop}
    (h : ∀ l, x.go l = (y, l)) (hpost : ∀ a l, y = .ok a → pre l → post a l) :
    Follows x y clean pre post :=
  fun l hc hp => ⟨[], by simpa using h l, by simpa using hc,
    fun a ha => by simpa using hpost a l ha hp⟩

theorem pure (a : α) {post : α → SearchLog → Prop} (hpost : ∀ l, pre l → post a l) :
    Follows (Pure.pure a : Watched α) (.ok a) clean pre post :=
  of_go (fun _ => rfl) fun _ l ha hp => by cases ha; exact hpost l hp

theorem ofExcept (y : Except Fault α) {post : α → SearchLog → Prop}
    (hpost : ∀ a l, y = .ok a → pre l → post a l) :
    Follows (MonadExcept.ofExcept y : Watched α) y clean pre post :=
  of_go (fun l => Watched.go_ofExcept y l) hpost

theorem bind {x : Watched α} {y : Except Fault α} {f : α → Watched β} {g : α → Except Fault β}
    {mid : α → SearchLog → Prop} {post : β → SearchLog → Prop}
    (hx : Follows x y clean pre mid)
    (hf : ∀ a, y = .ok a → Follows (f a) (g a) clean (mid a) post) :
    Follows (x >>= f) (y >>= g) clean pre post := by
  intro l hc hp
  obtain ⟨asked, hgo, hc', hmid⟩ := hx l hc hp
  cases hy : y with
  | error e =>
    refine ⟨asked, ?_, hc', fun a ha => by cases ha⟩
    rw [Watched.go_bind, hgo, hy]; rfl
  | ok a =>
    obtain ⟨asked', hgo', hc'', hpost⟩ := hf a hy (l ++ asked) hc' (hmid a hy)
    refine ⟨asked ++ asked', ?_, by simpa using hc'', fun b hb => by simpa using hpost b hb⟩
    rw [Watched.go_bind, hgo, hy]
    show (f a).go (l ++ asked) = (g a, l ++ (asked ++ asked'))
    rw [hgo', List.append_assoc]

theorem mono {x : Watched α} {y : Except Fault α} {post post' : α → SearchLog → Prop}
    (hx : Follows x y clean pre post) (h : ∀ a l, post a l → post' a l) :
    Follows x y clean pre post' := fun l hc hp =>
  let ⟨asked, hgo, hc', hpost⟩ := hx l hc hp
  ⟨asked, hgo, hc', fun a ha => h a _ (hpost a ha)⟩

theorem map (f : α → β) {x : Watched α} {y : Except Fault α} {post : α → SearchLog → Prop}
    (hx : Follows x y clean pre fun a => post a) :
    Follows (f <$> x) (f <$> y) clean pre fun b l => ∃ a, f a = b ∧ post a l := by
  intro l hc hp
  obtain ⟨asked, hgo, hc', hpost⟩ := hx l hc hp
  refine ⟨asked, ?_, hc', fun b hb => ?_⟩
  · rw [map_eq_pure_bind, Watched.go_bind, hgo]
    cases y <;> rfl
  · cases hy : y with
    | error e => rw [hy] at hb; cases hb
    | ok a => rw [hy] at hb; exact ⟨a, by simpa using hb, hpost a hy⟩

/-- A watched fold follows an unwatched one when each step does, from every accumulator and
log that an invariant allows. -/
theorem foldlM {γ : Type} {f : β → γ → Watched β} {g : β → γ → Except Fault β}
    (inv : β → SearchLog → Prop) :
    ∀ {l : List γ} {b : β},
      (∀ b a, a ∈ l → Follows (f b a) (g b a) clean (inv b) inv) →
      Follows (l.foldlM f b) (l.foldlM g b) clean (inv b) inv
  | [], b, _ => pure b fun _ h => h
  | a :: l, b, step => by
    simp only [List.foldlM_cons]
    exact (step b a List.mem_cons_self).bind fun b' _ =>
      foldlM inv fun c x hx => step c x (List.mem_cons_of_mem _ hx)

end Follows

/-! ### The watched search -/

theorem go_watchStep (i : Nat) (f : Finder (Except Fault)) (ref : Identity) (src : String)
    (l : SearchLog) : (watchStep i f ref src).go l = (f ref src, l ++ [(i, ref)]) := by
  simp only [watchStep, Watched.go_bind, Watched.go_modify, Watched.go_ofExcept]

/-- The watched search from position `i` asks its steps in order, each once, until one answers
or fails: the log gains the questions `(i, ref)`, `(i + 1, ref)`, … and nothing else. -/
theorem watched_firstFound (ref : Identity) (src : String) :
    ∀ (i : Nat) (fs : List (Finder (Except Fault))) (l : SearchLog), ∃ j,
      (firstFound ref src (watchSteps i fs)).go l =
        (firstFound ref src fs, l ++ (List.range' i j).map fun t => (t, ref))
  | i, [], l => ⟨0, by simp [firstFound, watchSteps]; rfl⟩
  | i, f :: fs, l => by
    simp only [watchSteps, firstFound]
    rw [Watched.go_bind, go_watchStep]
    cases hf : f ref src with
    | error e => exact ⟨1, by simp⟩
    | ok found =>
      cases found with
      | some p => exact ⟨1, by simp; rfl⟩
      | none =>
        obtain ⟨j, hj⟩ := watched_firstFound ref src (i + 1) fs (l ++ [(i, ref)])
        refine ⟨j + 1, ?_⟩
        simp only [except_ok_bind]
        rw [hj, List.range'_succ]
        simp

/-! ### Clean logs -/

/-- A clean log: no step was asked twice about one key, and every question is about a
reference that is not the base library and whose key the table `start` does not know. -/
structure CleanLog (base : Identity) (start : Bindings) (l : SearchLog) : Prop where
  nodup : (l.map fun q => (q.1, q.2.key)).Nodup
  not_base : ∀ q ∈ l, q.2.isBase base.name = false
  not_started : ∀ q ∈ l, start.lookup q.2.key = none

/-- The table ends with `start` and knows every key the log asked about. -/
def Answered (start known : Bindings) (l : SearchLog) : Prop :=
  start <:+ known ∧ ∀ q ∈ l, (known.lookup q.2.key).isSome

theorem Answered.mono {start known known' : Bindings} {l : SearchLog}
    (h : Answered start known l) (hk : known <:+ known') : Answered start known' l :=
  ⟨h.1.trans hk, fun q hq => hk.sublist.lookup_isSome (h.2 q hq)⟩

/-- Registering the module found for a reference answers the questions asked about it. -/
theorem Answered.register {start known : Bindings} {l : SearchLog} {ref : Identity} {img : Image}
    {p : String} (h : Answered start known l) (i j : Nat) :
    Answered start (registerFound img p ref known)
      (l ++ (List.range' i j).map fun t => (t, ref)) := by
  have hsuffix : known <:+ registerFound img p ref known :=
    (List.suffix_cons _ _).trans (List.suffix_cons _ _)
  refine ⟨h.1.trans hsuffix, fun q hq => ?_⟩
  rcases List.mem_append.1 hq with hq | hq
  · exact hsuffix.sublist.lookup_isSome (h.2 q hq)
  · obtain ⟨t, _, rfl⟩ := List.mem_map.1 hq
    exact lookup_registerFound_isSome img p ref known

theorem CleanLog.nil (base : Identity) (start : Bindings) : CleanLog base start [] :=
  ⟨List.nodup_nil, nofun, nofun⟩

/-- Questions about a reference that is not the base library and whose key is unknown keep a
log clean: the key is new to it, as every key it asked about is known. -/
theorem CleanLog.ask {base : Identity} {start known : Bindings} {l : SearchLog} {ref : Identity}
    (hc : CleanLog base start l) (ha : Answered start known l) (hb : ref.isBase base.name = false)
    (hk : known.lookup ref.key = none) (i j : Nat) :
    CleanLog base start (l ++ (List.range' i j).map fun t => (t, ref)) := by
  have hstart : start.lookup ref.key = none := by
    cases hs : start.lookup ref.key with
    | none => rfl
    | some r =>
      have := ha.1.sublist.lookup_isSome (k := ref.key) (by simp [hs])
      simp [hk] at this
  refine ⟨?_, ?_, ?_⟩
  · rw [List.map_append, List.nodup_append]
    refine ⟨hc.nodup, ?_, ?_⟩
    · simp only [List.map_map]
      exact List.Pairwise.map _ (fun a b hab heq => hab (by simpa using heq)) List.nodup_range'
    · intro x hx y hy hxy
      obtain ⟨q, hq, rfl⟩ := List.mem_map.1 hx
      obtain ⟨t', ht', rfl⟩ := List.mem_map.1 hy
      obtain ⟨t, _, rfl⟩ := List.mem_map.1 ht'
      have hkey : q.2.key = ref.key := congrArg Prod.snd hxy
      have hq' := ha.2 q hq
      rw [hkey, hk] at hq'
      exact Bool.false_ne_true hq'
  · intro q hq
    rcases List.mem_append.1 hq with hq | hq
    · exact hc.not_base q hq
    · obtain ⟨t, _, rfl⟩ := List.mem_map.1 hq
      exact hb
  · intro q hq
    rcases List.mem_append.1 hq with hq | hq
    · exact hc.not_started q hq
    · obtain ⟨t, _, rfl⟩ := List.mem_map.1 hq
      exact hstart

/-! ### The watched binding -/

section Watching

variable {fs : List (Finder (Except Fault))} {w : Workspace} {base : Identity} {start : Bindings}

/-- A watched binding follows the unwatched one from any log whose keys the table knows.  The
search is asked only in the fresh branch, about a reference that is not the base library and
whose key is unknown, so the log stays clean; and the table binding gives knows that key, so on
success it knows every key the log asked about. -/
theorem watched_bindReference : ∀ (n : Nat) (known : Bindings) (ref : Identity) (src : String),
    Follows (bindReference (watchSteps 0 fs) w base n known ref src)
      (bindReference fs w base n known ref src) (CleanLog base start) (Answered start known)
      (fun res l => Answered start res.2 l)
  | 0, known, ref, src => Follows.of_go (fun _ => rfl) fun _ _ h => by cases h
  | n + 1, known, ref, src => by
    cases hb : ref.isBase base.name
    · cases hk : known.lookup ref.key with
      | some r =>
        rw [show bindReference (watchSteps 0 fs) w base (n + 1) known ref src = pure (r, known)
          from bindReference_of_known hb hk, bindReference_of_known hb hk]
        exact Follows.pure _ fun _ h => h
      | none =>
        intro l hc ha
        obtain ⟨j, hj⟩ := watched_firstFound ref src 0 fs l
        have hc₁ := hc.ask ha hb hk 0 j
        cases hf : firstFound ref src fs with
        | error e =>
          rw [bindReference_of_search_error hb hk hf]
          simp only [bindReference, hb, hk, Bool.false_eq_true, if_false, bind_pure_comp]
          rw [Watched.go_bind, Watched.go_tryCatch, hj, hf]
          exact ⟨_, rfl, hc₁, fun _ h => by cases h⟩
        | ok found =>
          cases found with
          | none =>
            rw [bindReference_of_not_found hb hk hf]
            simp only [bindReference, hb, hk, Bool.false_eq_true, if_false, bind_pure_comp]
            rw [Watched.go_bind, Watched.go_tryCatch, hj, hf]
            exact ⟨_, rfl, hc₁, fun _ h => by cases h⟩
          | some p =>
            cases hi : w.readImage p with
            | error e =>
              rw [bindReference_of_unreadable hb hk hf hi]
              simp only [bindReference, hb, hk, Bool.false_eq_true, if_false, bind_pure_comp]
              rw [Watched.go_bind, Watched.go_tryCatch, hj, hf]
              simp only [Watched.go_bind, Watched.go_ofExcept, hi]
              exact ⟨_, rfl, hc₁, fun _ h => by cases h⟩
            | ok img =>
              rw [bindReference_of_found hb hk hf hi]
              simp only [bindReference, hb, hk, Bool.false_eq_true, if_false, bind_pure_comp]
              rw [Watched.go_bind, Watched.go_tryCatch, hj, hf]
              simp only [Watched.go_bind, Watched.go_ofExcept, hi, mapError_except_ok]
              -- the found module's references, bound in order, each from a table that knows
              -- every key asked so far
              have hfold : Follows (bindFoundRefs (watchSteps 0 fs) w base n p img.references
                  (registerFound img p ref known)) (bindFoundRefs fs w base n p img.references
                  (registerFound img p ref known)) (CleanLog base start)
                  (Answered start (registerFound img p ref known)) (Answered start) :=
                Follows.foldlM (Answered start) fun k dep _ =>
                  (Follows.map Prod.snd (watched_bindReference n k dep p)).mono
                    fun k' l' hex => by
                      obtain ⟨res, hsnd, hans⟩ := hex
                      exact hsnd ▸ hans
              obtain ⟨asked, hgo, hclean, hpost⟩ := Follows.map (Prod.mk (BoundReference.mk img.identity p false))
                hfold _ hc₁ (ha.register 0 j)
              refine ⟨_ ++ asked, ?_, by simpa using hclean, fun a ha' => ?_⟩
              · rw [← List.append_assoc, ← hgo]
                rfl
              · obtain ⟨k, rfl, hk'⟩ := hpost a ha'
                simpa using hk'
    · rw [show bindReference (watchSteps 0 fs) w base (n + 1) known ref src =
        pure (⟨base, "", true⟩, known) from bindReference_of_base hb, bindReference_of_base hb]
      exact Follows.pure _ fun _ h => h

/-- A watched binding of a module's references follows the unwatched one. -/
theorem watched_bindAll (fuel : Nat) (known : Bindings) (refs : List Identity) (src : String) :
    Follows (bindAll (watchSteps 0 fs) w base fuel known refs src)
      (bindAll fs w base fuel known refs src) (CleanLog base start) (Answered start known)
      (fun res l => Answered start res.2 l) := by
  unfold bindAll
  refine Follows.foldlM (fun (acc : List BoundReference × Bindings) l => Answered start acc.2 l)
    fun acc ref _ => ?_
  obtain ⟨bound, k⟩ := acc
  refine (watched_bindReference fuel k ref src).bind fun res _ => ?_
  obtain ⟨r, k'⟩ := res
  exact Follows.pure _ fun _ h => h

/-- A watched step of loading one input module follows the unwatched one. -/
theorem watched_loadModule (fuel : Nat) (acc : List LoadedModule × Bindings × RuntimeVersion)
    (x : String × Image) :
    Follows (loadModule (watchSteps 0 fs) w base fuel acc x) (loadModule fs w base fuel acc x)
      (CleanLog base start) (Answered start acc.2.1) (fun res l => Answered start res.2.1 l) := by
  obtain ⟨mods, known, req⟩ := acc
  obtain ⟨p, img⟩ := x
  simp only [loadModule, ofExcept_except]
  refine (watched_bindAll fuel known img.references p).bind fun res _ => ?_
  obtain ⟨refs, k⟩ := res
  exact (Follows.ofExcept _ fun _ _ _ h => h).bind fun rt _ => Follows.pure _ fun _ h => h

/-- A watched load gives what the load gives.  When the inputs cannot be read no step is asked
anything; otherwise the log is clean with respect to the inputs' table: no step is asked twice
about one key, never about the base library, and never about a key of an input. -/
theorem watched_loadWith (fuel : Nat) (inputs : List String) :
    ∃ asked, (loadWith (watchSteps 0 fs) w base fuel inputs).go [] =
        (loadWith fs w base fuel inputs, asked) ∧
      (∀ read, inputs.mapM (readInput w) = .ok read → CleanLog base (inputBindings read) asked) ∧
      (∀ e, inputs.mapM (readInput w) = .error e → asked = []) := by
  simp only [loadWith, ofExcept_except]
  rw [Watched.go_bind, Watched.go_ofExcept]
  cases hread : inputs.mapM (readInput w) with
  | error e => exact ⟨[], rfl, fun _ h => (by cases h), fun _ _ => rfl⟩
  | ok read =>
    have hfold : Follows (read.foldlM (loadModule (watchSteps 0 fs) w base fuel)
        ([], inputBindings read, RuntimeVersion.zero))
        (read.foldlM (loadModule fs w base fuel) ([], inputBindings read, RuntimeVersion.zero))
        (CleanLog base (inputBindings read)) (Answered (inputBindings read) (inputBindings read))
        (fun acc l => Answered (inputBindings read) acc.2.1 l) :=
      Follows.foldlM (fun acc l => Answered (inputBindings read) acc.2.1 l)
        fun acc x _ => watched_loadModule fuel acc x
    obtain ⟨asked, hgo, hclean, _⟩ := hfold [] (CleanLog.nil _ _) ⟨List.suffix_refl _, fun _ h => by cases h⟩
    refine ⟨asked, ?_, fun read' h => ?_, fun _ h => by cases h⟩
    case refine_2 => cases h; exact hclean
    simp only [except_ok_bind]
    rw [Watched.go_bind, hgo]
    simp only [List.nil_append]
    cases read.foldlM (loadModule fs w base fuel) ([], inputBindings read, RuntimeVersion.zero) with
    | error e => rfl
    | ok res => obtain ⟨mods, known, req⟩ := res; rfl

end Watching

/-- Loading settles at the workspace's binding fuel, and a watched load asks each search step
at most once about each key.  More fuel than the workspace's binding fuel gives the same load,
and no load runs out of fuel; the watched load gives what the load gives, and no step is asked
twice about one key, nor about the base library, nor about the key of an input. -/
theorem load_settles_and_searches_once (w : Workspace) (s : Search) (inputs : List String) :
    (∀ n ≥ w.bindingFuel, loadWith (s.steps w) w s.base n inputs = load w s inputs) ∧
    (∀ ref src, load w s inputs ≠ .error (chainTooDeep ref src)) ∧
    ∃ asked, (loadWith (watchSteps 0 (s.steps w)) w s.base w.bindingFuel inputs).go [] =
        (load w s inputs, asked) ∧
      (asked.map fun q => (q.1, q.2.key)).Nodup ∧
      (∀ q ∈ asked, q.2.isBase s.base.name = false) ∧
      ∀ q ∈ asked, ∀ p ∈ inputs, ∀ img, w.readImage p = .ok img → q.2.key ≠ img.identity.key := by
  have hsettled := loadWith_settled (s.steps w) w s.base inputs
  refine ⟨fun n hn => ?_, hsettled.never_out, ?_⟩
  · obtain ⟨d, rfl⟩ := Nat.exists_eq_add_of_le hn
    exact hsettled.more_fuel d
  · obtain ⟨asked, hgo, hclean, hempty⟩ := @watched_loadWith (s.steps w) w s.base w.bindingFuel inputs
    refine ⟨asked, hgo, ?_⟩
    cases hread : inputs.mapM (readInput w) with
    | error e =>
      obtain rfl := hempty e hread
      simp
    | ok read =>
      replace hclean := hclean read hread
      refine ⟨hclean.nodup, hclean.not_base, fun q hq p hp img himg hkey => ?_⟩
      -- the inputs' table binds every input's key, and no question is about a key it binds
      have hknown := lookup_inputBindings_isSome (mem_read_of_readImage himg hread hp)
      rw [← hkey, hclean.not_started q hq] at hknown
      cases hknown

end NativeExports
