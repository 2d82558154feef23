import Mathlib
import NativeExports.Loader
import NativeExports.Proofs.ExceptSteps
/-!
Purpose: the run of binding references in `Except Fault`, and why it never runs out of fuel.

Binding is a recursion with no depth bound of its own: a reference found in the workspace
sends binding into the references of the module found for it.  What keeps it finite is that
each descent makes known the key of a reference that some image of the workspace holds and
that was not known before.  Here:

* `bindReference_of_base` … `bindReference_of_found` say what one step of binding does in each
  of its six branches; later proofs cite them and never unfold the definition.
* `bindReference_suffix` says that binding only puts bindings in front of the table it
  starts from, so a known key stays known.
* `unboundReferences` counts the workspace's references whose keys are not yet known; a
  descent lowers it (`unboundReferences_register`).
* `Settled run n` says that a computation that takes fuel gives the same with any fuel from
  `n` up, and that what it gives is not the fault of running out.  Settled computations are
  closed under binds and folds, and binding is settled from one more than the count
  (`bindReference_settled`).

Main result: `loadWith_settled`: loading is settled at the workspace's binding fuel.
-/

namespace NativeExports

/-! ### The branches of binding -/

section Found

variable {m : Type → Type} [Monad m] [MonadExcept Fault m]

/-- The bindings after binding in order, with `fuel` each, the references of the module
found at `source`. -/
def bindFoundRefs (fs : List (Finder m)) (w : Workspace) (base : Identity) (fuel : Nat)
    (source : String) (refs : List Identity) (known : Bindings) : m Bindings :=
  refs.foldlM (fun k dep => Prod.snd <$> bindReference fs w base fuel k dep source) known

/-- The bindings a module found at `p` adds for the reference it was found for: under its own
key and under the reference's. -/
def registerFound (img : Image) (p : String) (ref : Identity) (known : Bindings) : Bindings :=
  (img.identity.key, ⟨img.identity, p, false⟩) :: (ref.key, ⟨img.identity, p, false⟩) :: known

end Found

section Settle

variable {m : Type → Type} [Monad m] [MonadExcept Fault m] {fs : List (Finder m)} {w : Workspace}
  {base : Identity} {n : Nat} {known : Bindings} {ref : Identity} {src : String}

/-- A reference to the base library is bound to it, in any monad, without a search. -/
theorem bindReference_of_base (hb : ref.isBase base.name = true) :
    bindReference fs w base (n + 1) known ref src = pure (⟨base, "", true⟩, known) := by
  simp [bindReference, hb]

/-- A reference whose key is known is bound to what the key is bound to, without a search. -/
theorem bindReference_of_known {r : BoundReference} (hb : ref.isBase base.name = false)
    (hk : known.lookup ref.key = some r) :
    bindReference fs w base (n + 1) known ref src = pure (r, known) := by
  simp [bindReference, hb, hk]

end Settle

section Branches

variable {fs : List (Finder (Except Fault))} {w : Workspace} {base : Identity} {n : Nat}
  {known : Bindings} {ref : Identity} {src : String}

theorem bindReference_of_search_error {e : Fault} (hb : ref.isBase base.name = false)
    (hk : known.lookup ref.key = none) (hf : firstFound ref src fs = .error e) :
    bindReference fs w base (n + 1) known ref src =
      .error (.wrap Code.unresolvedReference e ("resolving " ++ ref.name ++ " referenced by " ++
        src)) := by
  simp [bindReference, hb, hk, hf]

theorem bindReference_of_not_found (hb : ref.isBase base.name = false)
    (hk : known.lookup ref.key = none) (hf : firstFound ref src fs = .ok none) :
    bindReference fs w base (n + 1) known ref src =
      .error (.error Code.unresolvedReference ("cannot resolve module " ++ Text.quote ref.name ++
        " (" ++ ref.fullName ++ ") referenced by " ++ src)) := by
  simp [bindReference, hb, hk, hf]

theorem bindReference_of_unreadable {p : String} {e : Fault} (hb : ref.isBase base.name = false)
    (hk : known.lookup ref.key = none) (hf : firstFound ref src fs = .ok (some p))
    (hi : w.readImage p = .error e) :
    bindReference fs w base (n + 1) known ref src =
      .error (.wrap Code.unreadableImage e ("reference " ++ ref.name ++ " resolved to unreadable " ++
        p)) := by
  simp [bindReference, hb, hk, hf, hi]

theorem bindReference_of_found {p : String} {img : Image} (hb : ref.isBase base.name = false)
    (hk : known.lookup ref.key = none) (hf : firstFound ref src fs = .ok (some p))
    (hi : w.readImage p = .ok img) :
    bindReference fs w base (n + 1) known ref src =
      (Prod.mk ⟨img.identity, p, false⟩) <$>
        bindFoundRefs fs w base n p img.references (registerFound img p ref known) := by
  simp [bindReference, hb, hk, hf, hi, bindFoundRefs, registerFound]

/-- A fresh reference bound successfully was found by the search and read, is bound to the
module read, and the table is what binding that module's references leaves. -/
theorem bindReference_fresh_eq_ok {r : BoundReference} {known' : Bindings}
    (hb : ref.isBase base.name = false) (hk : known.lookup ref.key = none)
    (h : bindReference fs w base (n + 1) known ref src = .ok (r, known')) :
    ∃ p img, firstFound ref src fs = .ok (some p) ∧ w.readImage p = .ok img ∧
      r = ⟨img.identity, p, false⟩ ∧
      bindFoundRefs fs w base n p img.references (registerFound img p ref known) = .ok known' := by
  cases hf : firstFound ref src fs with
  | error e => rw [bindReference_of_search_error hb hk hf] at h; cases h
  | ok found =>
    cases found with
    | none => rw [bindReference_of_not_found hb hk hf] at h; cases h
    | some p =>
      cases hi : w.readImage p with
      | error e => rw [bindReference_of_unreadable hb hk hf hi] at h; cases h
      | ok img =>
        rw [bindReference_of_found hb hk hf hi] at h
        obtain ⟨k, hfold, hk'⟩ := except_bind_eq_ok h
        cases hk'
        exact ⟨p, img, rfl, hi, rfl, hfold⟩

end Branches

/-! ### Tables only grow -/

section Growth

variable {fs : List (Finder (Except Fault))} {w : Workspace} {base : Identity}

/-- Binding only puts bindings in front of the table it starts from. -/
theorem bindReference_suffix : ∀ {n : Nat} {known : Bindings} {ref : Identity} {src : String}
    {r : BoundReference} {known' : Bindings},
    bindReference fs w base n known ref src = .ok (r, known') → known <:+ known'
  | 0, _, _, _, _, _, h => by cases h
  | n + 1, known, ref, src, r, known', h => by
    cases hb : ref.isBase base.name
    · cases hk : known.lookup ref.key with
      | some r' =>
        rw [bindReference_of_known hb hk] at h
        cases h; exact List.suffix_refl _
      | none =>
        obtain ⟨p, img, -, -, -, hfold⟩ := bindReference_fresh_eq_ok hb hk h
        -- the found module's references only put bindings in front, one by one
        have grows := foldlM_except_inv (fun k => registerFound img p ref known <:+ k)
          (fun b dep b' _ hb hstep => by
            obtain ⟨⟨r'', b''⟩, hrun, hsnd⟩ := except_bind_eq_ok hstep
            cases hsnd
            exact hb.trans (bindReference_suffix hrun))
          (List.suffix_refl _) hfold
        exact (List.suffix_cons _ _ |>.trans (List.suffix_cons _ _)).trans grows
    · rw [bindReference_of_base hb] at h
      cases h; exact List.suffix_refl _

end Growth

/-! ### Where references come from -/

/-- A file that can be read is an entry of the workspace. -/
theorem Workspace.mem_entries_of_readFile {w : Workspace} {p : String} {bytes : List UInt8}
    (h : w.readFile p = .ok bytes) : ∃ k, (k, Entry.file bytes) ∈ w.entries := by
  unfold Workspace.readFile at h
  split at h
  · cases h
  · split at h
    · cases h
    · cases h
    · rename_i b hfind
      cases h
      unfold Workspace.find? at hfind
      split at hfind
      · cases hfind
      · cases hfind
      · obtain ⟨e, he, hentry⟩ := Option.map_eq_some_iff.1 hfind
        exact ⟨e.1, by simpa [← hentry] using List.mem_of_find?_eq_some he⟩

/-- Every reference of an image read from the workspace is one the workspace's images hold. -/
theorem mem_referencedIdentities_of_readImage {w : Workspace} {p : String} {img : Image}
    (h : w.readImage p = .ok img) {r : Identity} (hr : r ∈ img.references) :
    r ∈ w.referencedIdentities := by
  unfold Workspace.readImage at h
  split at h
  · cases h
  · obtain ⟨bytes, hread, hdecode⟩ := except_bind_eq_ok h
    obtain ⟨k, hentry⟩ := Workspace.mem_entries_of_readFile hread
    have hdec : Image.decode bytes = .ok img := by
      cases hd : Image.decode bytes <;> simp_all
    exact List.mem_flatMap.2 ⟨(k, .file bytes), hentry, by simpa [hdec] using hr⟩

/-! ### What binding can still descend into -/

/-- How many of the references the workspace's images hold have a key the table does not
know. -/
def unboundReferences (w : Workspace) (known : Bindings) : Nat :=
  w.referencedIdentities.countP fun r => (known.lookup r.key).isNone

theorem unboundReferences_le (w : Workspace) (known : Bindings) :
    unboundReferences w known ≤ w.referencedIdentities.length :=
  List.countP_le_length

/-- A table that ends with another leaves no more keys unknown. -/
theorem unboundReferences_anti {w : Workspace} {known known' : Bindings} (h : known <:+ known') :
    unboundReferences w known' ≤ unboundReferences w known := by
  refine List.countP_mono_left fun r _ hr => ?_
  cases hk : known.lookup r.key with
  | none => rfl
  | some b =>
    have hsome := h.sublist.lookup_isSome (k := r.key) (by simp [hk])
    rw [Option.isNone_iff_eq_none] at hr
    simp [hr] at hsome

/-- Counting with a weaker predicate gives strictly more when some element passes only the
weaker one. -/
theorem countP_lt_of_mono {α : Type} {p q : α → Bool} :
    ∀ {l : List α}, (∀ x ∈ l, p x → q x) → (∃ x ∈ l, q x ∧ ¬ p x) → l.countP p < l.countP q
  | [], _, ⟨_, hx, _⟩ => by cases hx
  | a :: l, hpq, ⟨x, hx, hqx, hpx⟩ => by
    have hle : l.countP p ≤ l.countP q :=
      List.countP_mono_left fun y hy => hpq y (List.mem_cons_of_mem _ hy)
    rcases List.mem_cons.1 hx with rfl | hx
    · simp [hqx, hpx]; omega
    · have hlt := countP_lt_of_mono (fun y hy => hpq y (List.mem_cons_of_mem _ hy)) ⟨x, hx, hqx, hpx⟩
      have ha := hpq a List.mem_cons_self
      simp only [List.countP_cons]
      split <;> split <;> simp_all

/-- A registered module is known under the key of the reference it was found for. -/
theorem lookup_registerFound_isSome (img : Image) (p : String) (ref : Identity)
    (known : Bindings) : ((registerFound img p ref known).lookup ref.key).isSome := by
  simp only [registerFound, List.lookup_cons]
  split <;> simp

/-- Registering a module found for a reference whose key was unknown makes one more of the
workspace's references known. -/
theorem unboundReferences_register {w : Workspace} {known : Bindings} {ref : Identity}
    {img : Image} {p : String} (href : ref ∈ w.referencedIdentities)
    (hk : known.lookup ref.key = none) :
    unboundReferences w (registerFound img p ref known) < unboundReferences w known := by
  have hsuffix : known <:+ registerFound img p ref known :=
    (List.suffix_cons _ _).trans (List.suffix_cons _ _)
  refine countP_lt_of_mono (fun r _ hr => ?_) ⟨ref, href, by simp [hk], ?_⟩
  · cases hk' : known.lookup r.key with
    | none => rfl
    | some b =>
      have hsome := hsuffix.sublist.lookup_isSome (k := r.key) (by simp [hk'])
      rw [Option.isNone_iff_eq_none] at hr
      simp [hr] at hsome
  · simpa using lookup_registerFound_isSome img p ref known

/-! ### Settled computations -/

/-- A computation that takes fuel has settled at `n`: any more fuel gives what `n` gives, and
what `n` gives is not the fault of running out. -/
structure Settled {α : Type} (run : Nat → Except Fault α) (n : Nat) : Prop where
  more_fuel : ∀ d, run (n + d) = run n
  never_out : ∀ ref source, run n ≠ .error (chainTooDeep ref source)

namespace Settled

variable {α β : Type} {n : Nat}

/-- A computation that does not use its fuel, and does not fail for the lack of it. -/
theorem of_const {x : Except Fault α} (h : ∀ ref source, x ≠ .error (chainTooDeep ref source)) :
    Settled (fun _ => x) n :=
  ⟨fun _ => rfl, h⟩

theorem ok (a : α) : Settled (fun _ => (.ok a : Except Fault α)) n :=
  of_const fun _ _ h => by cases h

/-- A fault with a cause is never the fault of running out, which has none. -/
theorem wrap (code : Code) (cause : Fault) (message : String) :
    Settled (fun _ => (.error (.wrap code cause message) : Except Fault α)) n :=
  of_const fun _ _ h => by simp [chainTooDeep, Fault.wrap, Fault.error] at h

theorem bind {x : Nat → Except Fault α} {g : Nat → α → Except Fault β} (hx : Settled x n)
    (hg : ∀ a, x n = .ok a → Settled (fun k => g k a) n) : Settled (fun k => x k >>= g k) n := by
  constructor
  · intro d
    rw [hx.more_fuel d]
    cases h : x n with
    | error e => rfl
    | ok a => exact (hg a h).more_fuel d
  · intro ref source
    cases h : x n with
    | error e => simpa [h] using hx.never_out ref source
    | ok a => exact (hg a h).never_out ref source

theorem map (f : α → β) {x : Nat → Except Fault α} (hx : Settled x n) :
    Settled (fun k => f <$> x k) n := by
  constructor
  · intro d
    rw [hx.more_fuel d]
  · intro ref source h
    cases hxn : x n with
    | error e =>
      rw [hxn, Except.map_error] at h
      exact hx.never_out ref source (by rw [hxn, Except.error.inj h])
    | ok a => rw [hxn] at h; cases h

/-- A computation of one more fuel is settled one later than what it does with the rest. -/
theorem succ {run : Nat → Except Fault α} {g : Nat → Except Fault α}
    (h : ∀ k, run (k + 1) = g k) (hg : Settled g n) : Settled run (n + 1) := by
  constructor
  · intro d
    rw [Nat.add_right_comm, h, h, hg.more_fuel d]
  · intro ref source
    rw [h]
    exact hg.never_out ref source

/-- A fold settles when each of its steps does, from every accumulator that an invariant
allows, and the steps keep the invariant. -/
theorem foldlM {γ : Type} {f : Nat → β → γ → Except Fault β} (P : β → Prop) :
    ∀ {l : List γ} {b : β},
      (∀ b a, a ∈ l → P b → Settled (fun k => f k b a) n ∧ ∀ b', f n b a = .ok b' → P b') →
      P b → Settled (fun k => l.foldlM (f k) b) n
  | [], b, _, _ => ok b
  | a :: l, b, step, hb => by
    simp only [List.foldlM_cons]
    obtain ⟨hfirst, hkeep⟩ := step b a List.mem_cons_self hb
    exact hfirst.bind fun b' hb' =>
      foldlM P (fun c x hx hc => step c x (List.mem_cons_of_mem _ hx) hc) (hkeep b' hb')

end Settled

/-- The fault of a reference nothing finds is not the fault of running out: their messages
start differently. -/
theorem not_found_ne_chainTooDeep (ref : Identity) (src : String) (ref' : Identity)
    (src' : String) :
    Fault.error Code.unresolvedReference ("cannot resolve module " ++ Text.quote ref.name ++
      " (" ++ ref.fullName ++ ") referenced by " ++ src) ≠ chainTooDeep ref' src' := by
  intro h
  simp only [chainTooDeep, Fault.error, Fault.finding.injEq] at h
  have := congrArg String.toList h.2.2.1
  simp at this

section Fuel

variable {fs : List (Finder (Except Fault))} {w : Workspace} {base : Identity}

/-- Binding a reference of the workspace's images is settled from one more than the number of
their references whose keys are still unknown.  The induction is on the fuel; a descent makes
one more of those keys known, so the fuel left still exceeds the count. -/
theorem bindReference_settled : ∀ (n : Nat) (known : Bindings) (ref : Identity) (src : String),
    ref ∈ w.referencedIdentities → unboundReferences w known < n →
    Settled (fun k => bindReference fs w base k known ref src) n
  | 0, _, _, _, _, hlt => absurd hlt (Nat.not_lt_zero _)
  | n + 1, known, ref, src, href, hlt => by
    cases hb : ref.isBase base.name
    · cases hk : known.lookup ref.key with
      | some r => exact Settled.succ (fun _ => bindReference_of_known hb hk) (Settled.ok _)
      | none =>
        cases hf : firstFound ref src fs with
        | error e =>
          exact Settled.succ (fun _ => bindReference_of_search_error hb hk hf) (Settled.wrap _ _ _)
        | ok found =>
          cases found with
          | none =>
            exact Settled.succ (fun _ => bindReference_of_not_found hb hk hf)
              (Settled.of_const fun ref' src' h => not_found_ne_chainTooDeep ref src ref' src'
                (Except.error.inj h))
          | some p =>
            cases hi : w.readImage p with
            | error e =>
              exact Settled.succ (fun _ => bindReference_of_unreadable hb hk hf hi)
                (Settled.wrap _ _ _)
            | ok img =>
              have hreg := @unboundReferences_register w known ref img p href hk
              refine Settled.succ (fun _ => bindReference_of_found hb hk hf hi) (Settled.map _ ?_)
              -- the found module's references, each from a table that still leaves fewer
              -- than `n` keys unknown
              refine Settled.foldlM (fun k => unboundReferences w k < n) (fun k dep hdep hkn => ⟨?_, ?_⟩)
                (by omega)
              · exact Settled.map _ (bindReference_settled n k dep p
                  (mem_referencedIdentities_of_readImage hi hdep) hkn)
              · intro k' hstep
                obtain ⟨⟨r, k''⟩, hrun, rfl⟩ := except_map_eq_ok hstep
                exact Nat.lt_of_le_of_lt (unboundReferences_anti (bindReference_suffix hrun)) hkn
    · exact Settled.succ (fun _ => bindReference_of_base hb) (Settled.ok _)

/-- Binding the references of a module read from the workspace is settled at the workspace's
binding fuel, from any table. -/
theorem bindAll_settled {known : Bindings} {refs : List Identity} {src : String}
    (hrefs : ∀ r ∈ refs, r ∈ w.referencedIdentities) :
    Settled (fun k => bindAll fs w base k known refs src) w.bindingFuel := by
  unfold bindAll
  refine Settled.foldlM (fun _ => True) (fun acc ref href _ => ⟨?_, fun _ _ => trivial⟩) trivial
  obtain ⟨bound, kn⟩ := acc
  -- no table leaves more keys unknown than there are references in the workspace
  have hlt : unboundReferences w kn < w.bindingFuel :=
    Nat.lt_succ_of_le (unboundReferences_le w kn)
  exact (bindReference_settled _ kn ref src (hrefs ref href) hlt).bind fun _ _ => Settled.ok _

end Fuel

/-! ### Loading -/

/-- An input that can be read is the image at its path. -/
theorem readImage_of_readInput {w : Workspace} {p : String} {x : String × Image}
    (h : readInput w p = .ok x) : x.1 = p ∧ w.readImage p = .ok x.2 := by
  unfold readInput at h
  obtain ⟨img, himg, hx⟩ := except_bind_eq_ok h
  cases hx
  cases hr : w.readImage p <;> simp_all

/-- Every module a successful read of the inputs gives was read from its path. -/
theorem readImage_of_mem_read {w : Workspace} :
    ∀ {inputs : List String} {read : List (String × Image)},
      inputs.mapM (readInput w) = .ok read → ∀ x ∈ read, w.readImage x.1 = .ok x.2
  | [], read, h, x, hx => by cases h; cases hx
  | p :: ps, read, h, x, hx => by
    obtain ⟨y, ys, hy, hys, rfl⟩ := mapM_cons_eq_ok h
    rcases List.mem_cons.1 hx with rfl | hx
    · obtain ⟨rfl, himg⟩ := readImage_of_readInput hy
      exact himg
    · exact readImage_of_mem_read hys x hx

/-- Reading the inputs fails only as reading one of them does. -/
theorem readInputs_error {w : Workspace} :
    ∀ {inputs : List String} {e : Fault},
      inputs.mapM (readInput w) = .error e → ∃ p ∈ inputs, readInput w p = .error e
  | [], e, h => by cases h
  | p :: ps, e, h => by
    rw [List.mapM_cons] at h
    cases hp : readInput w p with
    | error e' =>
      rw [hp] at h
      cases h
      exact ⟨p, List.mem_cons_self, hp⟩
    | ok y =>
      rw [hp, except_ok_bind] at h
      cases hps : ps.mapM (readInput w) with
      | error e' =>
        rw [hps] at h
        cases h
        obtain ⟨q, hq, hqe⟩ := readInputs_error hps
        exact ⟨q, List.mem_cons_of_mem _ hq, hqe⟩
      | ok ys => rw [hps] at h; cases h

/-- A successful read of the inputs holds every input with the image read from its path. -/
theorem mem_read_of_readImage {w : Workspace} {p : String} {img : Image}
    (himg : w.readImage p = .ok img) :
    ∀ {inputs : List String} {read : List (String × Image)},
      inputs.mapM (readInput w) = .ok read → p ∈ inputs → (p, img) ∈ read
  | [], _, _, hp => by cases hp
  | q :: qs, read, h, hp => by
    obtain ⟨y, ys, hy, hys, rfl⟩ := mapM_cons_eq_ok h
    rcases List.mem_cons.1 hp with rfl | hp
    · obtain ⟨hy1, hy2⟩ := readImage_of_readInput hy
      rw [himg] at hy2
      cases hy2
      rw [← hy1]
      exact List.mem_cons_self
    · exact List.mem_cons_of_mem _ (mem_read_of_readImage himg hys hp)

/-- A fold that only puts entries in front of a table keeps every key the table binds, and binds
the key that the step of one element binds, once that element is folded in. -/
theorem lookup_foldl_isSome {κ β α : Type} [BEq κ] {f : List (κ × β) → α → List (κ × β)} {key : κ}
    {x : α} (hf : ∀ k y, ∃ b, f k y = b :: k) (hx : ∀ k, ((f k x).lookup key).isSome) :
    ∀ (rs : List α) (acc : List (κ × β)), x ∈ rs ∨ (acc.lookup key).isSome →
      ((rs.foldl f acc).lookup key).isSome := by
  intro rs
  induction rs with
  | nil => intro acc h; simpa using h
  | cons y rs ih =>
    intro acc h
    rw [List.foldl_cons]
    rw [List.mem_cons] at h
    rcases h with (rfl | hrs) | hacc
    · exact ih _ (Or.inr (hx acc))
    · exact ih _ (Or.inl hrs)
    · -- an entry put in front hides nothing the table bound before
      obtain ⟨⟨k, v⟩, hb⟩ := hf acc y
      refine ih _ (Or.inr ?_)
      rw [hb, List.lookup]
      split <;> simp_all

/-- The inputs' table binds the key of every input read. -/
theorem lookup_inputBindings_isSome {read : List (String × Image)} {x : String × Image}
    (hx : x ∈ read) : ((inputBindings read).lookup x.2.identity.key).isSome := by
  unfold inputBindings
  refine lookup_foldl_isSome (fun k y => ?_) (fun k => ?_) read [] (Or.inl hx)
  · obtain ⟨p, img⟩ := y
    exact ⟨_, rfl⟩
  · obtain ⟨p, img⟩ := x
    simp [List.lookup]

/-- Reading an input fails with a fault that names its path, never with the fault of running
out of fuel. -/
theorem readInput_ne_chainTooDeep {w : Workspace} {p : String} {ref : Identity} {src : String} :
    readInput w p ≠ .error (chainTooDeep ref src) := by
  unfold readInput
  cases w.readImage p with
  | error e => simp [chainTooDeep, Fault.wrap, Fault.error]
  | ok img => simp

/-- Loading is settled at the workspace's binding fuel, whatever the search steps: more fuel
gives the same, and no load runs out. -/
theorem loadWith_settled (fs : List (Finder (Except Fault))) (w : Workspace) (base : Identity)
    (inputs : List String) : Settled (fun k => loadWith fs w base k inputs) w.bindingFuel := by
  simp only [loadWith, ofExcept_except]
  refine (Settled.of_const fun ref src h => ?_).bind fun read hread => ?_
  · obtain ⟨p, _, hp⟩ := readInputs_error h
    exact readInput_ne_chainTooDeep hp
  · refine (Settled.foldlM (fun _ => True) (fun acc x hx _ => ⟨?_, fun _ _ => trivial⟩)
      trivial).bind fun res _ => ?_
    · obtain ⟨mods, known, req⟩ := acc
      obtain ⟨p, img⟩ := x
      have himg := readImage_of_mem_read hread _ hx
      simp only [loadModule]
      refine (bindAll_settled fun r hr => mem_referencedIdentities_of_readImage himg hr).bind
        fun bound _ => ?_
      obtain ⟨refs, known'⟩ := bound
      cases RuntimeVersion.parse img.runtime with
      | error e => exact Settled.wrap _ _ _
      | ok rt => exact Settled.ok _
    · obtain ⟨mods, known, req⟩ := res
      exact Settled.ok _

end NativeExports
