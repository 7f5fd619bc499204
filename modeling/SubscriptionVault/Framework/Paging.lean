import Mathlib

/-!
# Following a cursor

A listing that comes in pages is read by asking for the first page and then for the page at the
cursor of the last one, until there is no cursor. It is complete when every page holds the next
piece of what is left from its cursor on, and less is left behind it.
-/

namespace SubscriptionVault

universe u v w

variable {Cursor : Type u} {Page : Type v} {α : Type w}

/-- The pages a caller collects from a cursor on; `page c p` says that asking at `c` gives `p`. -/
inductive Traversal (page : Cursor → Page → Prop) (next : Page → Option Cursor) :
    Cursor → List Page → Prop
  | last {c : Cursor} {p : Page} : page c p → next p = none → Traversal page next c [p]
  | more {c c' : Cursor} {p : Page} {pages : List Page} : page c p → next p = some c' →
      Traversal page next c' pages → Traversal page next c (p :: pages)

/-- Asking at `c` gives a page with the items up to the next cursor, and the search gets on. -/
structure PagedFrom (page : Cursor → Page → Prop) (next : Page → Option Cursor)
    (items : Page → List α) (rest : Cursor → List α) (size : Cursor → Nat) (c : Cursor)
    (p : Page) : Prop where
  given : page c p
  last : next p = none → items p = rest c
  more : ∀ c', next p = some c' → items p ++ rest c' = rest c ∧ size c' < size c

namespace Traversal

variable {page : Cursor → Page → Prop} {next : Page → Option Cursor} {items : Page → List α}
  {c : Cursor}

/-- The rule for a complete listing: cursors keep the invariant, and at each of them the page that
is given holds the next piece of the rest. -/
theorem complete (rest : Cursor → List α) (size : Cursor → Nat) {I : Cursor → Prop}
    {P : Page → Prop}
    (hstep : ∀ c, I c → ∃ p, PagedFrom page next items rest size c p ∧ P p ∧
      ∀ c', next p = some c' → I c') (hc : I c) :
    ∃ pages, Traversal page next c pages ∧ pages.flatMap items = rest c ∧ ∀ p ∈ pages, P p := by
  induction hsize : size c using Nat.strongRecOn generalizing c with
  | ind n ih =>
    obtain ⟨p, hpaged, hp, hnext⟩ := hstep c hc
    cases hcursor : next p with
    | none =>
      refine ⟨[p], .last hpaged.given hcursor, ?_, ?_⟩
      · rw [List.flatMap_singleton]
        exact hpaged.last hcursor
      · intro q hq
        rwa [List.mem_singleton.mp hq]
    | some c' =>
      obtain ⟨hitems, hless⟩ := hpaged.more c' hcursor
      obtain ⟨pages, htraversal, hcollected, hall⟩ :=
        ih (size c') (hsize ▸ hless) (hnext c' hcursor) rfl
      refine ⟨p :: pages, .more hpaged.given hcursor htraversal, ?_, ?_⟩
      · rw [List.flatMap_cons, hcollected, hitems]
      · intro q hq
        rcases List.mem_cons.mp hq with rfl | hq
        · exact hp
        · exact hall q hq

theorem unique {pages pages' : List Page} (hpage : ∀ c p q, page c p → page c q → p = q)
    (h : Traversal page next c pages) (h' : Traversal page next c pages') : pages = pages' := by
  induction h generalizing pages' with
  | last hgiven hnext =>
    cases h' with
    | last hgiven' _ => rw [hpage _ _ _ hgiven hgiven']
    | more hgiven' hnext' _ =>
      rw [hpage _ _ _ hgiven hgiven', hnext'] at hnext
      cases hnext
  | more hgiven hnext _ ih =>
    cases h' with
    | last hgiven' hnext' =>
      rw [← hpage _ _ _ hgiven hgiven', hnext] at hnext'
      cases hnext'
    | more hgiven' hnext' hrest' =>
      obtain rfl := hpage _ _ _ hgiven hgiven'
      obtain rfl := Option.some.inj (hnext.symm.trans hnext')
      rw [ih hrest']

theorem forall_pages {P : Page → Prop} {pages : List Page} (hpage : ∀ c p, page c p → P p)
    (h : Traversal page next c pages) : ∀ p ∈ pages, P p := by
  induction h with
  | last hgiven _ =>
    intro q hq
    rw [List.mem_singleton.mp hq]
    exact hpage _ _ hgiven
  | more hgiven _ _ ih =>
    intro q hq
    rcases List.mem_cons.mp hq with rfl | hq
    · exact hpage _ _ hgiven
    · exact ih q hq

/-- A caller gets to the end where the search gets on at every cursor. -/
theorem ends (size : Cursor → Nat) {I : Cursor → Prop}
    (hstep : ∀ c, I c → ∃ p, page c p ∧ ∀ c', next p = some c' → I c' ∧ size c' < size c)
    (hc : I c) : ∃ pages, Traversal page next c pages := by
  have hpaged (c : Cursor) (hc : I c) : ∃ p, PagedFrom page next (fun _ => ([] : List Unit))
      (fun _ => []) size c p ∧ True ∧ ∀ c', next p = some c' → I c' := by
    obtain ⟨p, hgiven, hnext⟩ := hstep c hc
    exact ⟨p, ⟨hgiven, fun _ => rfl, fun c' hc' => ⟨rfl, (hnext c' hc').2⟩⟩, trivial,
      fun c' hc' => (hnext c' hc').1⟩
  obtain ⟨pages, htraversal, -⟩ := complete _ size hpaged hc
  exact ⟨pages, htraversal⟩

/-- Where every page accounts for what is left at its cursor but not at the next one, the pages
account for what is left at the first. -/
theorem sum_eq {M : Type*} [AddMonoid M] {I : Cursor → Prop} {f : Page → M} {g : Cursor → M}
    {pages : List Page} (hlast : ∀ c p, I c → page c p → next p = none → f p = g c)
    (hmore : ∀ c c' p, I c → page c p → next p = some c' → f p + g c' = g c ∧ I c')
    (h : Traversal page next c pages) (hc : I c) : (pages.map f).sum = g c := by
  induction h with
  | last hgiven hnext =>
    rw [List.map_singleton, List.sum_singleton]
    exact hlast _ _ hc hgiven hnext
  | more hgiven hnext _ ih =>
    obtain ⟨hpage, hc'⟩ := hmore _ _ _ hc hgiven hnext
    rw [List.map_cons, List.sum_cons, ih hc', hpage]

end Traversal

/-! ## Cursors that are places -/

section Places

variable {β : Type*} {xs : List α} {limit : Nat} {newestFirst : Bool}

/-- Where the page at every place holds what is found of the next `limit` entries, and the cursor
is the place behind them, all that is found of the list is collected. -/
theorem Traversal.of_slices {page : Option Nat → Page → Prop} {cursor : Page → Option Nat}
    {items : Page → List β} {P : Page → Prop} (f : α → Option β) (hlimit : 0 < limit)
    (hpage : ∀ c : Option Nat, ∃ p, page c p ∧
      items p = ((xs.drop (c.getD 0)).take limit).filterMap f ∧
      cursor p = (if c.getD 0 + limit < xs.length then some (c.getD 0 + limit) else none) ∧ P p) :
    ∃ pages, Traversal page (fun p => (cursor p).map some) none pages ∧
      pages.flatMap items = xs.filterMap f ∧ ∀ p ∈ pages, P p := by
  refine Traversal.complete (fun c : Option Nat => (xs.drop (c.getD 0)).filterMap f)
    (fun c : Option Nat => xs.length - c.getD 0) (I := fun _ => True) (fun c _ => ?_) trivial
  obtain ⟨p, hgiven, hitems, hcursor, hp⟩ := hpage c
  refine ⟨p, ⟨hgiven, fun hlast => ?_, fun c' hnext => ?_⟩, hp, fun _ _ => trivial⟩
  · have hend : ¬c.getD 0 + limit < xs.length := by
      intro hlt
      rw [hcursor, if_pos hlt] at hlast
      cases hlast
    rw [hitems, List.take_of_length_le]
    rw [List.length_drop]
    omega
  · have hmore : c.getD 0 + limit < xs.length := by
      by_contra hend
      rw [hcursor, if_neg hend] at hnext
      cases hnext
    rw [hcursor, if_pos hmore] at hnext
    cases hnext
    rw [hitems, Option.getD_some, ← List.filterMap_append, ← List.drop_drop,
      List.take_append_drop]
    exact ⟨rfl, by omega⟩

/-- The order in which a listing goes through a list. -/
def inOrder (newestFirst : Bool) (xs : List α) : List α := if newestFirst then xs.reverse else xs

@[simp] theorem length_inOrder : (inOrder newestFirst xs).length = xs.length := by
  cases newestFirst
  · rfl
  · exact List.length_reverse

theorem getElem?_inOrder {i : Nat} (hi : i < xs.length) : (inOrder newestFirst xs)[i]? =
    if newestFirst then xs[xs.length - 1 - i]? else xs[i]? := by
  cases newestFirst
  · rfl
  · exact List.getElem?_reverse hi

theorem map_inOrder (f : α → β) :
    inOrder newestFirst (xs.map f) = (inOrder newestFirst xs).map f := by
  cases newestFirst
  · rfl
  · exact List.map_reverse.symm

theorem filterMap_inOrder (f : α → Option β) :
    (inOrder newestFirst xs).filterMap f = inOrder newestFirst (xs.filterMap f) := by
  cases newestFirst
  · rfl
  · exact List.filterMap_reverse

theorem mem_inOrder {x : α} : x ∈ inOrder newestFirst xs ↔ x ∈ xs := by
  cases newestFirst
  · rfl
  · exact List.mem_reverse

end Places

/-! ## Cursors that are bounds -/

section Bounds

variable {xs ys done : List α} {limit : Nat} {first c : α}

variable [LinearOrder α]

/-- The entries that are not below the bound, in the order of the list. -/
def fromBound (xs : List α) (c : α) : List α := xs.filter fun x => c ≤ x

/-- The first entry of every block of `limit` entries but the first is above everything in front
of it, and nothing behind it is below it. -/
def InBlocks (xs : List α) (limit : Nat) : Prop :=
  ∀ j b, 0 < j → xs[j * limit]? = some b →
    (∀ x ∈ xs.take (j * limit), x < b) ∧ ∀ x ∈ xs.drop (j * limit), b ≤ x

/-- Asking at a bound gives the first `limit` entries from it on, and the entry after them. -/
structure PagesBounds (page : α → Page → Prop) (next : Page → Option α) (items : Page → List α)
    (xs : List α) (limit : Nat) (c : α) (p : Page) : Prop where
  given : ∀ q, page c q ↔ q = p
  items : items p = (fromBound xs c).take limit
  next : next p = (fromBound xs c)[limit]?

theorem mem_fromBound {x : α} : x ∈ fromBound xs c ↔ x ∈ xs ∧ c ≤ x := by
  simp [fromBound]

theorem fromBound_eq_self (h : ∀ x ∈ xs, c ≤ x) : fromBound xs c = xs :=
  List.filter_eq_self.mpr fun x hx => decide_eq_true (h x hx)

theorem fromBound_eq_nil (h : ∀ x ∈ xs, x < c) : fromBound xs c = [] :=
  List.filter_eq_nil_iff.mpr fun x hx hle => absurd (of_decide_eq_true hle) (not_le.mpr (h x hx))

theorem fromBound_append (xs ys : List α) (c : α) : fromBound (xs ++ ys) c = fromBound xs c ++ fromBound ys c :=
  List.filter_append ..

theorem InBlocks.fromBound (h : InBlocks xs limit) {j : Nat} (hj : 0 < j)
    (hc : xs[j * limit]? = some c) : fromBound xs c = xs.drop (j * limit) := by
  obtain ⟨hbefore, hafter⟩ := h j c hj hc
  have hsplit := fromBound_append (xs.take (j * limit)) (xs.drop (j * limit)) c
  rw [List.take_append_drop] at hsplit
  rw [hsplit, fromBound_eq_nil hbefore, fromBound_eq_self hafter, List.nil_append]

/-- A list in ascending order is paged well whatever the limit. -/
theorem InBlocks.of_sorted (h : xs.Pairwise (· < ·)) (limit : Nat) : InBlocks xs limit := by
  intro j b hj hb
  obtain ⟨hlt, rfl⟩ := List.getElem?_eq_some_iff.mp hb
  have hsplit := List.take_append_drop (j * limit) xs
  rw [← hsplit] at h
  obtain ⟨-, hdrop, hcross⟩ := List.pairwise_append.mp h
  rw [List.drop_eq_getElem_cons hlt] at hdrop hcross
  refine ⟨fun x hx => hcross x hx _ List.mem_cons_self, ?_⟩
  rw [List.drop_eq_getElem_cons hlt]
  intro x hx
  rcases List.mem_cons.mp hx with rfl | hx
  · exact le_rfl
  · exact ((List.pairwise_cons.mp hdrop).1 x hx).le

variable {page : α → Page → Prop} {next : Page → Option α} {items : Page → List α}

/-- All that is collected from a bound on is in the list and not below the bound. -/
theorem Traversal.collected_ge {pages : List Page}
    (hpage : ∀ c, c = first ∨ c ∈ xs → ∃ p, PagesBounds page next items xs limit c p)
    (h : Traversal page next c pages) (hc : c = first ∨ c ∈ xs) :
    ∀ x ∈ pages.flatMap items, c ≤ x := by
  induction h with
  | last hgiven _ =>
    obtain ⟨q, hq⟩ := hpage _ hc
    obtain rfl := (hq.given _).mp hgiven
    rw [List.flatMap_singleton, hq.items]
    intro x hx
    exact (mem_fromBound.mp (List.mem_of_mem_take hx)).2
  | @more c c' p pages hgiven hnext _ ih =>
    obtain ⟨q, hq⟩ := hpage _ hc
    obtain rfl := (hq.given _).mp hgiven
    rw [hq.next] at hnext
    have hmem := mem_fromBound.mp (List.mem_of_getElem? hnext)
    intro x hx
    rw [List.flatMap_cons, hq.items] at hx
    rcases List.mem_append.mp hx with hx | hx
    · exact (mem_fromBound.mp (List.mem_of_mem_take hx)).2
    · exact hmem.2.trans (ih (.inr hmem.1) x hx)

/-- Where every block starts at a bound for what comes before and after it, the pages are the
list. -/
theorem Traversal.of_blocks
    (hpage : ∀ c, c = first ∨ c ∈ xs → ∃ p, PagesBounds page next items xs limit c p)
    (hfirst : ∀ x ∈ xs, first ≤ x) (hlimit : 0 < limit) (hblocks : InBlocks xs limit) :
    ∃ pages, Traversal page next first pages ∧ pages.flatMap items = xs := by
  have hstart : fromBound xs first = xs := fromBound_eq_self hfirst
  have hstep (c : α) (hc : (c = first ∨ c ∈ xs) ∧ ∃ j, fromBound xs c = xs.drop (j * limit)) :
      ∃ p, PagedFrom page next items (fromBound xs) (fun c => (fromBound xs c).length) c p ∧
        True ∧ ∀ c', next p = some c' →
          (c' = first ∨ c' ∈ xs) ∧ ∃ j, fromBound xs c' = xs.drop (j * limit) := by
    obtain ⟨hc, j, hj⟩ := hc
    obtain ⟨p, hp⟩ := hpage c hc
    have hcursor (c' : α) (hc' : next p = some c') : xs[(j + 1) * limit]? = some c' := by
      rw [hp.next, hj, List.getElem?_drop] at hc'
      rwa [Nat.succ_mul]
    have hbound (c' : α) (hc' : next p = some c') :
        fromBound xs c' = xs.drop ((j + 1) * limit) :=
      hblocks.fromBound (Nat.succ_pos j) (hcursor c' hc')
    refine ⟨p, ⟨(hp.given p).mpr rfl, fun hlast => ?_, fun c' hc' => ⟨?_, ?_⟩⟩, trivial,
      fun c' hc' => ⟨.inr (List.mem_of_getElem? (hcursor c' hc')), j + 1, hbound c' hc'⟩⟩
    · rw [hp.next] at hlast
      rw [hp.items]
      exact List.take_of_length_le (List.getElem?_eq_none_iff.mp hlast)
    · rw [hp.items, hbound c' hc', hj, Nat.succ_mul, ← List.drop_drop, List.take_append_drop]
    · obtain ⟨hlt, -⟩ := List.getElem?_eq_some_iff.mp (hcursor c' hc')
      rw [hbound c' hc', hj, List.length_drop, List.length_drop]
      rw [Nat.succ_mul] at hlt ⊢
      omega
  obtain ⟨pages, htraversal, hcollected, -⟩ := Traversal.complete (fromBound xs)
    (fun c => (fromBound xs c).length) hstep
    ⟨.inl rfl, 0, by rw [hstart, Nat.zero_mul, List.drop_zero]⟩
  exact ⟨pages, htraversal, hcollected.trans hstart⟩

/-- The first page is collected. -/
theorem Traversal.first_collected {pages : List Page}
    (hpage : ∀ c, c = first ∨ c ∈ xs → ∃ p, PagesBounds page next items xs limit c p)
    (h : Traversal page next c pages) (hc : c = first ∨ c ∈ xs) {x : α}
    (hx : x ∈ (fromBound xs c).take limit) : x ∈ pages.flatMap items := by
  obtain ⟨q, hq⟩ := hpage c hc
  rw [← hq.items] at hx
  cases h with
  | last hgiven _ =>
    obtain rfl := (hq.given _).mp hgiven
    rwa [List.flatMap_singleton]
  | more hgiven _ _ =>
    obtain rfl := (hq.given _).mp hgiven
    rw [List.flatMap_cons]
    exact List.mem_append_left _ hx

/-- If everything is collected once, the blocks start at bounds. -/
theorem Traversal.blocks {pages : List Page} (hlimit : 0 < limit) (hnodup : xs.Nodup)
    (hpage : ∀ c, c = first ∨ c ∈ xs → ∃ p, PagesBounds page next items xs limit c p)
    (h : Traversal page next c pages) (hc : c = first ∨ c ∈ xs) (hxs : xs = done ++ ys)
    (hys : fromBound xs c = ys) (hperm : (pages.flatMap items).Perm ys) : InBlocks ys limit := by
  induction h generalizing done ys with
  | @last c p hgiven hnext =>
    obtain ⟨q, hq⟩ := hpage c hc
    obtain rfl := (hq.given p).mp hgiven
    rw [hq.next, hys] at hnext
    intro j b hj hb
    have hlength := List.getElem?_eq_none_iff.mp hnext
    obtain ⟨hlt, -⟩ := List.getElem?_eq_some_iff.mp hb
    have hmul : 1 * limit ≤ j * limit := Nat.mul_le_mul_right limit hj
    omega
  | @more c c' p pages hgiven hnext htraversal ih =>
    obtain ⟨q, hq⟩ := hpage c hc
    obtain rfl := (hq.given p).mp hgiven
    rw [hq.next, hys] at hnext
    rw [List.flatMap_cons, hq.items, hys] at hperm
    have hrest : (pages.flatMap items).Perm (ys.drop limit) := by
      refine (List.perm_append_left_iff (ys.take limit)).mp ?_
      rwa [List.take_append_drop]
    have hmem : c' ∈ xs := by
      rw [hxs]
      exact List.mem_append_right _ (List.mem_of_getElem? hnext)
    have hgreater : ∀ x ∈ ys.drop limit, c' ≤ x := fun x hx =>
      htraversal.collected_ge hpage (.inr hmem) x (hrest.mem_iff.mpr hx)
    have hsplit : xs = (done ++ ys.take limit) ++ ys.drop limit := by
      rw [List.append_assoc, List.take_append_drop, hxs]
    have hdisjoint := hsplit ▸ hnodup
    -- an earlier entry that is not below the cursor would open the next page
    have hlower : ∀ x ∈ done ++ ys.take limit, x < c' := by
      intro x hx
      by_contra hle
      have hkept : x ∈ fromBound (done ++ ys.take limit) c' := mem_fromBound.mpr ⟨hx, not_lt.mp hle⟩
      obtain ⟨y, others, hy⟩ := List.exists_cons_of_ne_nil (List.ne_nil_of_mem hkept)
      have hopens : fromBound xs c' = y :: (others ++ fromBound (ys.drop limit) c') := by
        rw [hsplit, fromBound_append, hy, List.cons_append]
      obtain ⟨k, rfl⟩ := Nat.exists_eq_succ_of_ne_zero (Nat.ne_of_gt hlimit)
      have hagain : y ∈ pages.flatMap items := htraversal.first_collected hpage (.inr hmem) (by
        rw [hopens, List.take_succ_cons]
        exact List.mem_cons_self)
      have hbefore : y ∈ done ++ ys.take (k + 1) :=
        (mem_fromBound.mp (hy ▸ List.mem_cons_self)).1
      exact (List.nodup_append.mp hdisjoint).2.2 y hbefore y (hrest.mem_iff.mp hagain) rfl
    have hfrom : fromBound xs c' = ys.drop limit := by
      rw [hsplit, fromBound_append, fromBound_eq_nil hlower, List.nil_append]
      exact fromBound_eq_self hgreater
    have hblocks := ih (.inr hmem) hsplit hfrom hrest
    intro j b hj hb
    obtain ⟨i, rfl⟩ := Nat.exists_eq_succ_of_ne_zero (Nat.ne_of_gt hj)
    have hindex : i.succ * limit = limit + i * limit := by rw [Nat.succ_mul, Nat.add_comm]
    rw [hindex] at hb ⊢
    rw [← List.getElem?_drop] at hb
    rw [List.take_add, ← List.drop_drop]
    have hb' : b ∈ ys.drop limit := List.mem_of_getElem? hb
    have hfront : ∀ x ∈ ys.take limit, x < b := fun x hx =>
      lt_of_lt_of_le (hlower x (List.mem_append_right _ hx)) (hgreater b hb')
    by_cases hi : i = 0
    · subst hi
      rw [Nat.zero_mul] at hb ⊢
      rw [List.getElem?_drop, Nat.add_zero, hnext] at hb
      cases hb
      rw [List.take_zero, List.append_nil, List.drop_zero]
      exact ⟨hfront, hgreater⟩
    · obtain ⟨hbefore, hafter⟩ := hblocks i b (Nat.pos_of_ne_zero hi) hb
      refine ⟨fun x hx => ?_, hafter⟩
      rcases List.mem_append.mp hx with hx | hx
      · exact hfront x hx
      · exact hbefore x hx

/-- Paging by bounds lists everything once just where the blocks start at bounds. -/
theorem Traversal.listed_once_iff (hlimit : 0 < limit) (hnodup : xs.Nodup)
    (hfirst : ∀ x ∈ xs, first ≤ x)
    (hpage : ∀ c, c = first ∨ c ∈ xs → ∃ p, PagesBounds page next items xs limit c p) :
    (∃ pages, Traversal page next first pages ∧ (pages.flatMap items).Perm xs) ↔
      InBlocks xs limit := by
  constructor
  · rintro ⟨pages, htraversal, hperm⟩
    exact htraversal.blocks hlimit hnodup hpage (.inl rfl) (List.nil_append xs).symm
      (fromBound_eq_self hfirst) hperm
  · intro hblocks
    obtain ⟨pages, htraversal, hcollected⟩ := Traversal.of_blocks hpage hfirst hlimit hblocks
    exact ⟨pages, htraversal, hcollected ▸ List.Perm.refl _⟩

end Bounds

end SubscriptionVault
