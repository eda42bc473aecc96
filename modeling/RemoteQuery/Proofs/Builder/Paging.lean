import Mathlib.Algebra.Order.Ring.Nat
import RemoteQuery.Builder.Basic

namespace RemoteQuery

def QueryParams.Shows (p : QueryParams) (row : ℕ) : Prop :=
  ∃ first count : UInt64, p.offset = some first ∧ p.limit = some count ∧
    first.toNat ≤ row ∧ row < first.toNat + count.toNat

namespace Builder

variable {page later perPage : UInt64} {row : ℕ}

theorem toNat_pageOffset (page perPage : UInt64) :
    (pageOffset page perPage).toNat
      = min ((page.toNat - 1) * perPage.toNat) (UInt64.size - 1) := by
  have hlt : min ((page.toNat - 1) * perPage.toNat) (UInt64.size - 1) < UInt64.size :=
    Nat.lt_of_le_of_lt (Nat.min_le_right _ _) (by decide)
  rw [pageOffset, UInt64.toNat_ofNat_of_lt' hlt]

theorem toNat_pageOffset_of_lt (h : (page.toNat - 1) * perPage.toNat < UInt64.size) :
    (pageOffset page perPage).toNat = (page.toNat - 1) * perPage.toNat := by
  rw [toNat_pageOffset, Nat.min_eq_left (Nat.le_sub_one_of_lt h)]

theorem pageOffset_mono (h : page ≤ later) : pageOffset page perPage ≤ pageOffset later perPage := by
  have hpages : page.toNat - 1 ≤ later.toNat - 1 := Nat.sub_le_sub_right (UInt64.le_iff_toNat_le.1 h) 1
  rw [UInt64.le_iff_toNat_le, toNat_pageOffset, toNat_pageOffset]
  exact min_le_min_right _ (Nat.mul_le_mul_right _ hpages)

theorem shows_paginate (b : Builder) (page perPage : UInt64) (row : ℕ) :
    (b.paginate page perPage).params.Shows row ↔
      (pageOffset page perPage).toNat ≤ row ∧
        row < (pageOffset page perPage).toNat + perPage.toNat := by
  constructor
  · rintro ⟨first, count, hfirst, hcount, hrow⟩
    cases hfirst
    cases hcount
    exact hrow
  · exact fun hrow => ⟨_, _, rfl, rfl, hrow⟩

theorem shows_paginate_iff (b : Builder) (hsize : 0 < perPage.toNat) (hrow : row < UInt64.size - 1) :
    (b.paginate page perPage).params.Shows row ↔ row / perPage.toNat = page.toNat - 1 := by
  rw [shows_paginate, Nat.div_eq_iff hsize, toNat_pageOffset]
  -- A page that begins at the largest word begins after the row.
  omega

theorem toNat_pageOf (hrow : row < UInt64.size - 1) :
    (UInt64.ofNat (row / perPage.toNat + 1)).toNat = row / perPage.toNat + 1 := by
  have hle : row / perPage.toNat ≤ row := Nat.div_le_self _ _
  exact UInt64.toNat_ofNat_of_lt' (by omega)

theorem pages_tile (b : Builder) (perPage : UInt64) :
    (1 ≤ perPage → ∀ row ≤ 2 ^ 64 - 2,
      ∃! page : UInt64, 1 ≤ page ∧ (b.paginate page perPage).params.Shows row) ∧
    b.paginate 0 perPage = b.paginate 1 perPage ∧
    (∀ page later first second : UInt64, page ≤ later →
      (b.paginate page perPage).params.offset = some first →
      (b.paginate later perPage).params.offset = some second → first ≤ second) ∧
    ∀ page : UInt64, ∃ first : UInt64, (b.paginate page perPage).params.offset = some first ∧
      first.toNat = min ((page.toNat - 1) * perPage.toNat) (2 ^ 64 - 1) ∧
      ((page.toNat - 1) * perPage.toNat < 2 ^ 64 →
        first.toNat = (page.toNat - 1) * perPage.toNat) := by
  refine ⟨fun hsize row hle => ?_, rfl, ?_, fun page => ?_⟩
  · have hpos : 0 < perPage.toNat := UInt64.le_iff_toNat_le.1 hsize
    have hrow : row < UInt64.size - 1 := Nat.lt_of_le_of_lt hle (by decide)
    refine ⟨UInt64.ofNat (row / perPage.toNat + 1), ⟨?_, ?_⟩, ?_⟩
    · rw [UInt64.le_iff_toNat_le, toNat_pageOf hrow]
      exact Nat.le_add_left _ _
    · rw [shows_paginate_iff b hpos hrow, toNat_pageOf hrow, Nat.add_sub_cancel]
    · rintro page ⟨hfirst, hshows⟩
      have hnumber := (shows_paginate_iff b hpos hrow).1 hshows
      have hone : 1 ≤ page.toNat := UInt64.le_iff_toNat_le.1 hfirst
      rw [← UInt64.toNat_inj, toNat_pageOf hrow, hnumber, Nat.sub_add_cancel hone]
  · rintro page later first second hle ⟨⟩ ⟨⟩
    exact pageOffset_mono hle
  · exact ⟨pageOffset page perPage, rfl, toNat_pageOffset page perPage, toNat_pageOffset_of_lt⟩

theorem pages_tile_halves :
    let half : UInt64 := 0x8000000000000000
    1 ≤ half ∧ ((new "users").paginate 2 half).params.Shows (2 ^ 64 - 2) ∧
      ¬((new "users").paginate 3 half).params.Shows (2 ^ 64 - 2) := by
  intro half
  have hhalf : 1 ≤ half := by decide
  have hsecond : ((new "users").paginate 2 half).params.Shows (2 ^ 64 - 2) :=
    (shows_paginate_iff _ (by decide) (by decide)).2 (by decide)
  refine ⟨hhalf, hsecond, fun hthird => ?_⟩
  have honly := (pages_tile (new "users") half).1 hhalf (2 ^ 64 - 2) le_rfl
  have heq : (3 : UInt64) = 2 := honly.unique ⟨by decide, hthird⟩ ⟨by decide, hsecond⟩
  exact absurd heq (by decide)

end Builder

end RemoteQuery
