/-
  PureBoot.Lib.Pages — a listing by rank, READ PAGE BY PAGE while rows are written.

  Each page is cut out of a listing of its own: rows are written between two pages, and how
  the rows of one rank are ordered is open each time.  New rows push the old ones towards the
  end, so what was read may come again.  What does not share its rank with another row is not
  missed: the number of rows above it never gets less, and it settles the row's place in
  every listing.

  Main results:
    * `Ordered.mem_page` — which rows a page holds, however the listing orders a rank;
    * `Walk.step`, `Walk.complete`, `Walk.sound` — what one page leaves to be read, and what
      has been read when the last page was.
-/
import PureBoot.Lib.Ranked
import PureBoot.Lib.Retention
import PureBoot.Lib.Run

namespace PureBoot.Lib

variable {α β κ : Type*} [LinearOrder κ] {rank : α → κ}

/-- `OFFSET offset LIMIT limit`. -/
def page (offset limit : Nat) (l : List α) : List α := (l.drop offset).take limit

/-- How many rows do not rank lower, the row itself among them. -/
def upTo (rank : α → κ) (x : α) (l : List α) : Nat := l.countP (fun y => rank x ≤ rank y)

variable {rows l : List α} {x : α} {offset limit : Nat}

instance [DecidableEq α] : Decidable (Ordered rank rows l) :=
  decidable_of_iff (rows.Perm l ∧ rows.Pairwise (fun a b => rank b ≤ rank a))
    ⟨fun h => ⟨h.1, h.2⟩, fun h => ⟨h.perm, h.sorted⟩⟩

/-- The row is on the page that covers its place. -/
theorem mem_page {s t : List α} (hlo : offset ≤ s.length) (hhi : s.length < offset + limit) :
    x ∈ page offset limit (s ++ x :: t) := by
  unfold page
  have hdrop : (s.drop offset).length < limit := by
    rw [List.length_drop]
    omega
  rw [List.drop_append_of_le_length hlo, List.take_append, List.mem_append]
  right
  obtain ⟨n, hn⟩ := Nat.exists_eq_succ_of_ne_zero (Nat.sub_ne_zero_of_lt hdrop)
  rw [hn]
  exact List.mem_cons_self

/-- **WHAT IS ON A PAGE**, however the rows of one rank are ordered. -/
theorem Ordered.mem_page (h : Ordered rank rows l) (hx : x ∈ l) (hlo : offset ≤ above rank l x)
    (hhi : upTo rank x l ≤ offset + limit) : x ∈ page offset limit rows := by
  obtain ⟨s, t, hrows⟩ := List.append_of_mem (h.perm.mem_iff.mpr hx)
  have hsorted := h.sorted
  have habove : above rank l x = above rank rows x := h.perm.symm.countP_eq _
  have hupTo : upTo rank x l = upTo rank x rows := h.perm.symm.countP_eq _
  rw [habove] at hlo
  rw [hupTo] at hhi
  subst hrows
  obtain ⟨-, hafter, hbetween⟩ := List.pairwise_append.mp hsorted
  -- what ranks higher comes before, and what comes before does not rank lower
  have hle : above rank (s ++ x :: t) x ≤ s.length := by
    unfold above
    have hnone : (x :: t).countP (fun y => rank x < rank y) = 0 := by
      rw [List.countP_eq_zero]
      intro y hy
      rw [decide_eq_true_eq, not_lt]
      rcases List.mem_cons.mp hy with rfl | hy
      · exact le_rfl
      · exact (List.pairwise_cons.mp hafter).1 y hy
    rw [List.countP_append, hnone]
    exact List.countP_le_length
  have hlt : s.length + 1 ≤ upTo rank x (s ++ x :: t) := by
    unfold upTo
    have hall : s.countP (fun y => rank x ≤ rank y) = s.length :=
      List.countP_eq_length.mpr
        (fun y hy => decide_eq_true (hbetween y hy x List.mem_cons_self))
    rw [List.countP_append, hall]
    refine Nat.add_le_add_left ?_ _
    exact List.countP_pos_iff.mpr ⟨x, List.mem_cons_self, decide_eq_true le_rfl⟩
  exact Lib.mem_page (hlo.trans hle) (by omega)

/-- A row that shares its rank with no other one. -/
def Alone (rank : α → κ) (x : α) (l : List α) : Prop := l.countP (fun y => rank y = rank x) = 1

instance : Decidable (Alone rank x l) := inferInstanceAs (Decidable (_ = 1))

theorem upTo_eq (rank : α → κ) (x : α) (l : List α) :
    upTo rank x l = above rank l x + l.countP (fun y => rank y = rank x) := by
  unfold upTo above
  induction l with
  | nil => rfl
  | cons y l ih =>
      rw [List.countP_cons, List.countP_cons, List.countP_cons, ih]
      rcases lt_trichotomy (rank x) (rank y) with h | h | h
      · simp [h, h.le, h.ne']
        omega
      · simp [h]
        omega
      · simp [h.not_ge, h.not_gt, h.ne]

/-- Rows that are added are no less above. -/
theorem above_append_le (rank : α → κ) (x : α) (l l' : List α) :
    above rank l x ≤ above rank (l ++ l') x := by
  unfold above
  rw [List.countP_append]
  exact Nat.le_add_right _ _

/-- Who is alone among more rows was alone before. -/
theorem Alone.of_append {l' : List α} (hx : x ∈ l) (h : Alone rank x (l ++ l')) :
    Alone rank x l := by
  unfold Alone at *
  rw [List.countP_append] at h
  have hpos : 0 < l.countP (fun y => rank y = rank x) :=
    List.countP_pos_iff.mpr ⟨x, hx, decide_eq_true rfl⟩
  omega

/-! ## The walk. -/

/-- Who reads the pages of a listing of rows, of which each is shown as a `β`. -/
structure Walk (α β : Type*) where
  /-- The table. -/
  rows : List α
  /-- How many pages were read. -/
  pages : Nat := 0
  got : List β := []
  /-- The last answer said that there are no more pages. -/
  finished : Bool := false

/-- What happens while the pages are read. -/
inductive WalkEvent (α : Type*) where
  | write (row : α)
  /-- The next page is read, from this listing. -/
  | read (listing : List α)

/-- What a page is asked for with: the table, its listing, and how many pages were read; the
answer is the page, and how long the listing is. -/
abbrev Ask (α β : Type*) : Type _ := List α → List α → Nat → List β × Nat

variable [DecidableEq α] (rank : α → κ) (selects : α → Bool) (limit : Nat) (ask : Ask α β)

/-- One of the two happens; a listing that the database would not answer is not read. -/
def Walk.exec (w : Walk α β) : WalkEvent α → Walk α β
  | .write row => { w with rows := w.rows ++ [row] }
  | .read listing =>
      if w.finished = false ∧ Ordered rank listing (w.rows.filter selects) then
        { w with
          pages := w.pages + 1
          got := w.got ++ (ask w.rows listing w.pages).1
          finished := (ask w.rows listing w.pages).2 ≤ (w.pages + 1) * limit }
      else w

/-- Pages of one length are answered, each row as an entry. -/
def AsksPages (entry : α → β) : Prop :=
  ∀ rows listing pages, Ordered rank listing (rows.filter selects) →
    ask rows listing pages = ((page (pages * limit) limit listing).map entry, listing.length)

/-- The row was read, or it comes on a later page, unless another row has its rank. -/
def Walk.Covers (entry : α → β) (w : Walk α β) (x : α) : Prop :=
  Alone rank x (w.rows.filter selects) →
    entry x ∈ w.got ∨ w.finished = false ∧ w.pages * limit ≤ above rank (w.rows.filter selects) x

variable {rank selects limit ask} {entry : α → β}

/-- Rows are only added. -/
theorem Walk.rows_prefix (w : Walk α β) (event : WalkEvent α) :
    w.rows <+: (w.exec rank selects limit ask event).rows := by
  cases event with
  | write row => exact List.prefix_append _ _
  | read listing =>
      unfold Walk.exec
      dsimp only
      split
      · exact List.prefix_rfl
      · exact List.prefix_rfl

theorem Walk.selected_mono (w : Walk α β) (event : WalkEvent α) (hx : x ∈ w.rows.filter selects) :
    x ∈ (w.exec rank selects limit ask event).rows.filter selects :=
  ((w.rows_prefix event).sublist.filter _).subset hx

/-- **ONE STEP** of the walk. -/
theorem Walk.step {w : Walk α β} (hask : AsksPages rank selects limit ask entry)
    (event : WalkEvent α) (hx : x ∈ w.rows.filter selects)
    (h : w.Covers rank selects limit entry x) :
    (w.exec rank selects limit ask event).Covers rank selects limit entry x := by
  cases event with
  | write row =>
      intro halone
      have hfilter : (w.rows ++ [row]).filter selects
          = w.rows.filter selects ++ [row].filter selects := List.filter_append _ _
      have halone : Alone rank x ((w.rows ++ [row]).filter selects) := halone
      rw [hfilter] at halone
      refine (h (halone.of_append hx)).imp_right (fun hlater => ⟨hlater.1, ?_⟩)
      show w.pages * limit ≤ above rank ((w.rows ++ [row]).filter selects) x
      rw [hfilter]
      exact hlater.2.trans (above_append_le rank x _ _)
  | read listing =>
      unfold Walk.exec
      dsimp only
      split
      next hread =>
        obtain ⟨-, hordered⟩ := hread
        rw [hask w.rows listing w.pages hordered]
        intro halone
        have halone : Alone rank x (w.rows.filter selects) := halone
        rcases h halone with hgot | ⟨-, hle⟩
        · exact Or.inl (List.mem_append_left _ hgot)
        · have hupTo := upTo_eq rank x (w.rows.filter selects)
          rw [show List.countP _ _ = 1 from halone] at hupTo
          rcases Nat.lt_or_ge (above rank (w.rows.filter selects) x) (w.pages * limit + limit)
            with hlt | hge
          · -- its place is on this page
            have hmem := hordered.mem_page hx hle (hupTo.le.trans hlt)
            exact Or.inl (List.mem_append_right _ (List.mem_map_of_mem hmem))
          · right
            have hlength : upTo rank x (w.rows.filter selects) ≤ listing.length := by
              rw [hordered.perm.length_eq]
              exact List.countP_le_length
            have hpages : (w.pages + 1) * limit = w.pages * limit + limit := Nat.succ_mul _ _
            refine ⟨decide_eq_false ?_, ?_⟩
            · omega
            · show (w.pages + 1) * limit ≤ above rank (w.rows.filter selects) x
              omega
      next => exact h

/-- **NO ROW IS MISSED**: whatever is written meanwhile, who has read the last page has read
every row that was there at the start, unless another row has its rank. -/
theorem Walk.complete (hask : AsksPages rank selects limit ask entry) {rows : List α}
    (events : List (WalkEvent α)) (hx : x ∈ rows.filter selects) :
    let w := run (Walk.exec rank selects limit ask) ({ rows } : Walk α β) events
    w.finished = true → Alone rank x (w.rows.filter selects) → entry x ∈ w.got := by
  intro w hfinished halone
  have hkeep : ∀ (w : Walk α β) (event : WalkEvent α),
      x ∈ w.rows.filter selects ∧ w.Covers rank selects limit entry x →
      x ∈ (w.exec rank selects limit ask event).rows.filter selects ∧
        (w.exec rank selects limit ask event).Covers rank selects limit entry x := by
    rintro w event ⟨hmem, hcovers⟩
    exact ⟨w.selected_mono event hmem, Walk.step hask event hmem hcovers⟩
  have hstart : ({ rows } : Walk α β).Covers rank selects limit entry x := by
    intro _
    refine Or.inr ⟨rfl, ?_⟩
    show 0 * limit ≤ _
    rw [Nat.zero_mul]
    exact Nat.zero_le _
  rcases (run_invariant' hkeep events ⟨hx, hstart⟩).2 halone with hgot | ⟨hopen, -⟩
  · exact hgot
  · rw [show w.finished = false from hopen] at hfinished
    cases hfinished

/-- **NOTHING ELSE IS READ** than rows that were selected. -/
theorem Walk.sound (hask : AsksPages rank selects limit ask entry) (rows : List α)
    (events : List (WalkEvent α)) :
    let w := run (Walk.exec rank selects limit ask) ({ rows } : Walk α β) events
    ∀ shown ∈ w.got, ∃ row ∈ w.rows.filter selects, entry row = shown := by
  have hkeep : ∀ (w : Walk α β) (event : WalkEvent α),
      (∀ shown ∈ w.got, ∃ row ∈ w.rows.filter selects, entry row = shown) →
      ∀ shown ∈ (w.exec rank selects limit ask event).got,
        ∃ row ∈ (w.exec rank selects limit ask event).rows.filter selects, entry row = shown := by
    intro w event hsound shown hshown
    have hbefore : shown ∈ w.got →
        ∃ row ∈ (w.exec rank selects limit ask event).rows.filter selects, entry row = shown := by
      intro hgot
      obtain ⟨row, hrow, hentry⟩ := hsound shown hgot
      exact ⟨row, w.selected_mono event hrow, hentry⟩
    cases event with
    | write row => exact hbefore hshown
    | read listing =>
        unfold Walk.exec at hshown hbefore ⊢
        dsimp only at hshown hbefore ⊢
        split at hshown
        next hread =>
          rw [if_pos hread] at hbefore ⊢
          rcases List.mem_append.mp hshown with hgot | hnew
          · exact hbefore hgot
          · rw [hask w.rows listing w.pages hread.2] at hnew
            obtain ⟨row, hrow, hentry⟩ := List.mem_map.mp hnew
            have hlisted : row ∈ listing := List.mem_of_mem_drop (List.mem_of_mem_take hrow)
            exact ⟨row, hread.2.perm.mem_iff.mp hlisted, hentry⟩
        next hread =>
          rw [if_neg hread]
          exact hsound shown hshown
  exact run_invariant' hkeep events (fun _ h => nomatch h)

end PureBoot.Lib
