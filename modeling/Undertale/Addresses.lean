import Undertale.Mapper
import Mathlib.Logic.Equiv.Fin.Basic

/-!
# The addresses of the sprites

The modules compute their flags and addresses in 32 bits, which their literals and `int`
variables have: a coordinate of 10 bits is zero extended, differences wrap, comparisons are
signed only if both sides are `int`, and the address keeps the lower 20 bits.

None of this shows.  Where the flag of a sprite is up, the address is the row-major
position of the pixel in the rectangle of the sprite (`Sprite.address_row_major`), whatever is in
the registers.  The flags and addresses of `Layers` are those of the modules
(`Game.flag_iff`, `Game.colors_eq`).
-/

namespace Undertale

/-! ## One coordinate -/

/-- A coordinate in the arithmetic of the addresses. -/
def wide (v : BitVec 10) : BitVec 32 := v.setWidth 32

/-- What a module does with a coordinate of the pixel.  For a sprite at a fixed place it
compares the coordinate with `low` and `high`, unsigned, and subtracts `origin`.  For a
sprite at the position register `pos` it compares the `int` `Dist`, which is the coordinate
less `pos`, and adds `offset` to it, or nothing. -/
inductive Placement where
  | fixed (low high origin : BitVec 32)
  | moving (pos : BitVec 10) (low high offset : BitVec 32)

/-- The comparisons. -/
def Placement.inside (c : Placement) (v : BitVec 10) : Bool :=
  match c with
  | .fixed low high _ => low ≤ wide v && wide v < high
  | .moving pos low high _ => low.sle (wide v - wide pos) && (wide v - wide pos).slt high

/-- What goes into the address. -/
def Placement.offset (c : Placement) (v : BitVec 10) : BitVec 32 :=
  match c with
  | .fixed _ _ origin => wide v - origin
  | .moving pos _ _ offset => wide v - wide pos + offset

/-- The comparisons let `size` values from `corner` on through, and the offset counts from
there. -/
structure Placement.Spans (c : Placement) (corner : ℤ) (size : ℕ) : Prop where
  inside : ∀ v, c.inside v = true ↔ corner ≤ v.toNat ∧ (v.toNat : ℤ) < corner + size
  offset : ∀ v, c.inside v = true → ((c.offset v).toNat : ℤ) = v.toNat - corner

@[simp] theorem toNat_wide (v : BitVec 10) : (wide v).toNat = v.toNat :=
  BitVec.toNat_setWidth_of_le (by decide)

/-- The difference of two coordinates does not wrap as a signed number. -/
theorem wide_sub (v w : BitVec 10) :
    wide v - wide w = BitVec.ofInt 32 ((v.toNat : ℤ) - w.toNat) := by
  have hwide : ∀ v : BitVec 10, wide v = BitVec.ofInt 32 (v.toNat : ℤ) := fun v =>
    (BitVec.ofNat_toNat 32 v).symm
  rw [Int.sub_eq_add_neg, BitVec.ofInt_add, BitVec.ofInt_neg, ← hwide, ← hwide,
    BitVec.sub_eq_add_neg]

theorem toInt_wide_sub (v w : BitVec 10) : (wide v - wide w).toInt = (v.toNat : ℤ) - w.toNat := by
  have hv := v.isLt
  have hw := w.isLt
  rw [wide_sub]
  exact BitVec.toInt_ofInt_eq_self (by decide) (by omega) (by omega)

theorem Placement.Spans.fixed {low high : BitVec 32} {corner : ℤ} {size : ℕ}
    (hlow : corner = low.toNat) (hhigh : corner + size = high.toNat) :
    (Placement.fixed low high low).Spans corner size where
  inside v := by
    simp only [Placement.inside, Bool.and_eq_true, decide_eq_true_eq, BitVec.le_def,
      BitVec.lt_def, toNat_wide]
    omega
  offset v h := by
    simp only [Placement.inside, Bool.and_eq_true, decide_eq_true_eq] at h
    rw [Placement.offset, BitVec.toNat_sub_of_le h.1, toNat_wide]
    have hle : low.toNat ≤ v.toNat := by
      have := h.1
      rwa [BitVec.le_def, toNat_wide] at this
    omega

theorem Placement.Spans.moving {pos : BitVec 10} {low high offset : BitVec 32} {corner : ℤ}
    {size : ℕ} (hcorner : corner = pos.toNat + low.toInt) (hsize : low.toInt + size = high.toInt)
    (hoffset : offset = -low) : (Placement.moving pos low high offset).Spans corner size where
  inside v := by
    simp only [Placement.inside, Bool.and_eq_true, BitVec.sle_iff_toInt_le,
      BitVec.slt_iff_toInt_lt, toInt_wide_sub]
    omega
  offset v h := by
    simp only [Placement.inside, Bool.and_eq_true, BitVec.sle_iff_toInt_le,
      BitVec.slt_iff_toInt_lt, toInt_wide_sub] at h
    have hv := v.isLt
    have hsum : wide v - wide pos + offset = BitVec.ofInt 32 ((v.toNat : ℤ) - corner) := by
      have hlow : -low = BitVec.ofInt 32 (-low.toInt) := by
        rw [BitVec.ofInt_neg, BitVec.ofInt_toInt]
      rw [wide_sub, hoffset, hlow, ← BitVec.ofInt_add]
      congr 1
      omega
    have hrange := BitVec.toInt_lt (x := high)
    have hrange' := BitVec.le_toInt low
    rw [Placement.offset, hsum, BitVec.toNat_ofInt, Int.emod_eq_of_lt (by omega) (by omega)]
    omega

/-! ## A sprite -/

/-- How a module draws a sprite: the `status`, the place, and the factor of the rows in the
address. -/
structure Drawing where
  status : BitVec 4
  x : Placement
  y : Placement
  width : BitVec 32

/-- The flag of the sprite in a pixel. -/
def Drawing.flag (d : Drawing) (status : BitVec 4) (p : Pixel) : Bool :=
  d.x.inside p.drawX && d.y.inside p.drawY && status == d.status

/-- The address that goes with the flag. -/
def Drawing.address (d : Drawing) (status : BitVec 4) (p : Pixel) : BitVec 20 :=
  if d.flag status p then
    (d.x.offset p.drawX + d.y.offset p.drawY * d.width).setWidth 20
  else 0#20

/-- The sprite fills the window `w` around `origin`, which is `width` by `height`, and its
rows are as wide as the window. -/
structure Drawing.Shows (d : Drawing) (w : Window) (origin : ℤ × ℤ) (width height : ℕ) :
    Prop where
  status : d.status = w.status
  x : d.x.Spans (origin.1 + w.left) width
  y : d.y.Spans (origin.2 + w.top) height
  right : w.right = w.left + width
  bottom : w.bottom = w.top + height
  factor : d.width = BitVec.ofNat 32 width
  fits : height * width ≤ 2 ^ 20

section shows
variable {d : Drawing} {w : Window} {origin : ℤ × ℤ} {width height : ℕ} {status : BitVec 4}
  {p : Pixel} (h : d.Shows w origin width height)
include h

/-- The flag is up in the window. -/
theorem Drawing.Shows.flag_eq {q : ℤ × ℤ} (hx : p.drawX.toNat = origin.1 + q.1)
    (hy : p.drawY.toNat = origin.2 + q.2) : d.flag status p = w.covers status q := by
  have hright := h.right
  have hbottom := h.bottom
  rw [Bool.eq_iff_iff]
  simp only [Drawing.flag, Window.covers, Bool.and_eq_true, h.x.inside, h.y.inside, h.status,
    decide_eq_true_eq]
  constructor
  · rintro ⟨⟨⟨hleft, hright'⟩, htop, hbottom'⟩, hstatus⟩
    exact ⟨⟨⟨⟨by omega, by omega⟩, by omega⟩, by omega⟩, hstatus⟩
  · rintro ⟨⟨⟨⟨hleft, hright'⟩, htop⟩, hbottom'⟩, hstatus⟩
    exact ⟨⟨⟨by omega, by omega⟩, by omega, by omega⟩, hstatus⟩

/-- Where the flag is up, the address is the position of the pixel in the rows of the
window. -/
theorem Drawing.Shows.row_major (hp : d.flag status p = true) :
    ∃ (row : Fin height) (column : Fin width),
      (p.drawX.toNat : ℤ) = origin.1 + w.left + column ∧
      (p.drawY.toNat : ℤ) = origin.2 + w.top + row ∧
      (d.address status p).toNat = finProdFinEquiv (row, column) := by
  have hinside := hp
  simp only [Drawing.flag, Bool.and_eq_true] at hinside
  obtain ⟨⟨hx, hy⟩, -⟩ := hinside
  have hcolumn := h.x.offset p.drawX hx
  have hrow := h.y.offset p.drawY hy
  have hx' := (h.x.inside p.drawX).mp hx
  have hy' := (h.y.inside p.drawY).mp hy
  refine ⟨⟨(d.y.offset p.drawY).toNat, by omega⟩, ⟨(d.x.offset p.drawX).toNat, by omega⟩,
    by dsimp only; omega, by dsimp only; omega, ?_⟩
  -- the sum stays below `2 ^ 20`, so that nothing is cut off
  have hlt := (finProdFinEquiv (⟨(d.y.offset p.drawY).toNat, by omega⟩,
    ⟨(d.x.offset p.drawX).toNat, by omega⟩) : Fin (height * width)).isLt
  have hfits := h.fits
  have hsum : d.x.offset p.drawX + d.y.offset p.drawY * d.width =
      BitVec.ofNat 32
        ((d.x.offset p.drawX).toNat + width * (d.y.offset p.drawY).toNat) := by
    rw [BitVec.ofNat_add, Nat.mul_comm, BitVec.ofNat_mul, BitVec.ofNat_toNat, BitVec.setWidth_eq,
      BitVec.ofNat_toNat, BitVec.setWidth_eq, h.factor]
  rw [finProdFinEquiv_apply_val] at hlt ⊢
  dsimp only at hlt ⊢
  rw [Drawing.address, if_pos hp, hsum, BitVec.toNat_setWidth, BitVec.toNat_ofNat]
  omega

/-- The address is the one of the window. -/
theorem Drawing.Shows.address_eq {q : ℤ × ℤ} (hx : p.drawX.toNat = origin.1 + q.1)
    (hy : p.drawY.toNat = origin.2 + q.2) : d.address status p = w.address status q := by
  have hflag : d.flag status p = w.covers status q := h.flag_eq hx hy
  rw [Window.address, ← hflag]
  cases hp : d.flag status p with
  | false =>
      rw [Drawing.address, hp]
      rfl
  | true =>
      obtain ⟨row, column, hcolumn, hrow, haddress⟩ := h.row_major hp
      have hlt := (finProdFinEquiv (row, column)).isLt
      have hfits := h.fits
      rw [finProdFinEquiv_apply_val] at haddress hlt
      dsimp only at haddress hlt
      have hq : q.1 - w.left + (q.2 - w.top) * (w.right - w.left) =
          ((column + width * row : ℕ) : ℤ) := by
        have h1 : q.1 - w.left = (column : ℕ) := by omega
        have h2 : q.2 - w.top = (row : ℕ) := by omega
        have h3 : w.right - w.left = (width : ℕ) := by have := h.right; omega
        rw [h1, h2, h3, Int.natCast_add, Int.natCast_mul, Int.mul_comm]
      refine BitVec.eq_of_toNat_eq ?_
      rw [if_pos rfl, hq, haddress, BitVec.toNat_ofInt]
      omega

end shows

/-! ## The modules -/

def titleDrawing : Drawing :=
  ⟨1#4, .fixed 224#32 416#32 224#32, .fixed 224#32 256#32 224#32, 192#32⟩

def introDrawing1 : Drawing :=
  ⟨2#4, .fixed 79#32 278#32 79#32, .fixed 80#32 187#32 80#32, 199#32⟩

def introDrawing2 : Drawing :=
  ⟨2#4, .fixed 360#32 559#32 360#32, .fixed 80#32 187#32 80#32, 199#32⟩

def map1Drawing (r : Scroll) : Drawing :=
  ⟨3#4, .moving r.xPos (-510#32) 240#32 510#32, .fixed 180#32 300#32 180#32, 750#32⟩

def doorDrawing (r : Scroll) : Drawing :=
  ⟨3#4, .moving r.xPos 0#32 182#32 0#32, .fixed 22#32 180#32 22#32, 182#32⟩

def friskDrawing (r : Mover) : Drawing :=
  ⟨3#4, .moving r.xPos 0#32 38#32 0#32, .moving r.yPos 0#32 58#32 0#32, 38#32⟩

def map2Drawing : Drawing :=
  ⟨4#4, .fixed 162#32 478#32 162#32, .fixed 204#32 304#32 204#32, 316#32⟩

def frisk2Drawing (r : Mover) : Drawing :=
  ⟨4#4, .moving r.xPos 0#32 38#32 0#32, .moving r.yPos 0#32 58#32 0#32, 38#32⟩

def heartDrawing (r : Heart) : Drawing :=
  ⟨5#4, .moving r.mover.xPos (-8#32) 8#32 8#32, .moving r.mover.yPos (-8#32) 8#32 8#32, 16#32⟩

def fieldDrawing : Drawing :=
  ⟨5#4, .fixed 238#32 403#32 238#32, .fixed 239#32 379#32 239#32, 165#32⟩

def flowerDrawing : Drawing :=
  ⟨5#4, .fixed 279#32 361#32 279#32, .fixed 124#32 210#32 124#32, 82#32⟩

def bulletDrawing (r : Bullets) (k : Fin 15) : Drawing :=
  ⟨5#4, .moving ((lane k).x (r.bullet k)) (-6#32) 6#32 6#32,
    .moving ((lane k).y (r.bullet k)) (-6#32) 6#32 6#32, 12#32⟩

def winDrawing : Drawing :=
  ⟨6#4, .fixed 174#32 466#32 174#32, .fixed 222#32 258#32 222#32, 292#32⟩

def loseDrawing : Drawing :=
  ⟨7#4, .fixed 164#32 476#32 164#32, .fixed 222#32 258#32 222#32, 312#32⟩

/-- `is_bullet0` to `is_bullet14`: the lane whose bullet is drawn. -/
def Bullets.drawn (status : BitVec 4) (r : Bullets) (p : Pixel) : Option (Fin 15) :=
  (List.finRange 15).find? fun k =>
    (bulletDrawing r k).flag status p &&
      !(r.frameClk.risingEdge && (lane k).atLimit (r.bullet k)) && r.showBullet k

/-- The sprites: one for each picture of the introduction, each act of the flower and each
bullet. -/
inductive Sprite where
  | title
  | intro (k : Fin 10)
  | map1
  | door
  | frisk
  | map2
  | frisk2
  | heart
  | field
  | flower (k : Fin 3)
  | bullet (k : Fin 15)
  | win
  | lose
deriving DecidableEq, Repr

/-- How a sprite is drawn.  The pictures of the odd pages are on the left. -/
def Sprite.drawing (s : Sprites) : Sprite → Drawing
  | .title => titleDrawing
  | .intro k => if k.val % 2 = 0 then introDrawing1 else introDrawing2
  | .map1 => map1Drawing s.map1
  | .door => doorDrawing s.door
  | .frisk => friskDrawing s.frisk
  | .map2 => map2Drawing
  | .frisk2 => frisk2Drawing s.frisk2
  | .heart => heartDrawing s.heart
  | .field => fieldDrawing
  | .flower _ => flowerDrawing
  | .bullet k => bulletDrawing s.bullets k
  | .win => winDrawing
  | .lose => loseDrawing

/-- The flag of a sprite. -/
def Sprite.flag (status : BitVec 4) (s : Sprites) (r : Intro) (p : Pixel) : Sprite → Bool
  | .intro k =>
      if introDrawing1.flag status p then k.val % 2 == 0 && r.introNum1.toNat == k.val + 1
      else if introDrawing2.flag status p then k.val % 2 == 1 && r.introNum2.toNat == k.val + 1
      else false
  | .flower k => flowerDrawing.flag status p && s.flower.flowerNum.toNat == k.val + 1
  | .bullet k => s.bullets.drawn status p == some k
  | l => (l.drawing s).flag status p

/-- The address that the module of a sprite puts out. -/
def Sprite.address (status : BitVec 4) (s : Sprites) (p : Pixel) : Sprite → BitVec 20
  | .intro _ =>
      if introDrawing1.flag status p then introDrawing1.address status p
      else introDrawing2.address status p
  | .bullet _ =>
      match s.bullets.drawn status p with
      | some k => (bulletDrawing s.bullets k).address status p
      | none => 0#20
  | l => (l.drawing s).address status p

/-- The rectangle of a sprite, around its position register if it has one. -/
def Sprite.window : Sprite → Window
  | .title => titleWindow
  | .intro k => if k.val % 2 = 0 then introWindow1 else introWindow2
  | .map1 => map1Window
  | .door => doorWindow
  | .frisk => friskWindow
  | .map2 => map2Window
  | .frisk2 => frisk2Window
  | .heart => heartWindow
  | .field => fieldWindow
  | .flower _ => flowerWindow
  | .bullet _ => bulletWindow
  | .win => winWindow
  | .lose => loseWindow

/-- The position register, which may hold anything. -/
def Sprite.origin (s : Sprites) : Sprite → ℤ × ℤ
  | .map1 => (s.map1.xPos.toNat, 0)
  | .door => (s.door.xPos.toNat, 0)
  | .frisk => (s.frisk.xPos.toNat, s.frisk.yPos.toNat)
  | .frisk2 => (s.frisk2.xPos.toNat, s.frisk2.yPos.toNat)
  | .heart => (s.heart.mover.xPos.toNat, s.heart.mover.yPos.toNat)
  | .bullet k =>
      (((lane k).x (s.bullets.bullet k)).toNat, ((lane k).y (s.bullets.bullet k)).toNat)
  | _ => (0, 0)

/-- The width of the image of a sprite. -/
def Sprite.width : Sprite → ℕ
  | .title => 192
  | .intro _ => 199
  | .map1 => 750
  | .door => 182
  | .frisk | .frisk2 => 38
  | .map2 => 316
  | .heart => 16
  | .field => 165
  | .flower _ => 82
  | .bullet _ => 12
  | .win => 292
  | .lose => 312

/-- The height of the image of a sprite. -/
def Sprite.height : Sprite → ℕ
  | .title => 32
  | .intro _ => 107
  | .map1 => 120
  | .door => 158
  | .frisk | .frisk2 => 58
  | .map2 => 100
  | .heart => 16
  | .field => 140
  | .flower _ => 86
  | .bullet _ => 12
  | .win | .lose => 36

/-- The number of addresses of the memory of a sprite. -/
def Sprite.romDepth : Sprite → ℕ
  | .title | .flower _ => 8192
  | .map1 => 131072
  | .intro _ | .door | .map2 | .field => 32768
  | .frisk | .frisk2 => 4096
  | .heart => 256
  | .bullet _ => 144
  | .win | .lose => 16384

/-- The image of a sprite fits in its memory. -/
theorem Sprite.fits (l : Sprite) : l.height * l.width ≤ l.romDepth := by
  cases l <;> dsimp only [Sprite.height, Sprite.width, Sprite.romDepth] <;> omega

theorem Sprite.romDepth_le (l : Sprite) : l.romDepth ≤ 2 ^ 20 := by
  cases l <;> dsimp only [Sprite.romDepth] <;> omega

/-- The numbers of every module are those of its sprite. -/
theorem Sprite.shows (s : Sprites) (l : Sprite) :
    (l.drawing s).Shows l.window (l.origin s) l.width l.height := by
  have hfits := l.fits.trans l.romDepth_le
  cases l with
  | title => exact ⟨rfl, .fixed rfl rfl, .fixed rfl rfl, rfl, rfl, rfl, hfits⟩
  | intro k =>
      simp only [Sprite.drawing, Sprite.window]
      split
      · exact ⟨rfl, .fixed rfl rfl, .fixed rfl rfl, rfl, rfl, rfl, hfits⟩
      · exact ⟨rfl, .fixed rfl rfl, .fixed rfl rfl, rfl, rfl, rfl, hfits⟩
  | map1 => exact ⟨rfl, .moving rfl rfl rfl, .fixed rfl rfl, rfl, rfl, rfl, hfits⟩
  | door => exact ⟨rfl, .moving rfl rfl rfl, .fixed rfl rfl, rfl, rfl, rfl, hfits⟩
  | frisk => exact ⟨rfl, .moving rfl rfl rfl, .moving rfl rfl rfl, rfl, rfl, rfl, hfits⟩
  | map2 => exact ⟨rfl, .fixed rfl rfl, .fixed rfl rfl, rfl, rfl, rfl, hfits⟩
  | frisk2 => exact ⟨rfl, .moving rfl rfl rfl, .moving rfl rfl rfl, rfl, rfl, rfl, hfits⟩
  | heart => exact ⟨rfl, .moving rfl rfl rfl, .moving rfl rfl rfl, rfl, rfl, rfl, hfits⟩
  | field => exact ⟨rfl, .fixed rfl rfl, .fixed rfl rfl, rfl, rfl, rfl, hfits⟩
  | flower k => exact ⟨rfl, .fixed rfl rfl, .fixed rfl rfl, rfl, rfl, rfl, hfits⟩
  | bullet k => exact ⟨rfl, .moving rfl rfl rfl, .moving rfl rfl rfl, rfl, rfl, rfl, hfits⟩
  | win => exact ⟨rfl, .fixed rfl rfl, .fixed rfl rfl, rfl, rfl, rfl, hfits⟩
  | lose => exact ⟨rfl, .fixed rfl rfl, .fixed rfl rfl, rfl, rfl, rfl, hfits⟩

theorem Bullets.drawn_eq_some {status : BitVec 4} {r : Bullets} {p : Pixel} {k : Fin 15}
    (h : r.drawn status p = some k) : (bulletDrawing r k).flag status p = true := by
  have hk := List.find?_some h
  simp only [Bool.and_eq_true] at hk
  exact hk.1.1

/-- Where the flag of a sprite is up its module puts out its address. -/
theorem Sprite.of_flag {status : BitVec 4} {s : Sprites} {r : Intro} {p : Pixel} {l : Sprite}
    (h : l.flag status s r p = true) :
    (l.drawing s).flag status p = true ∧
      l.address status s p = (l.drawing s).address status p := by
  cases l with
  | intro k =>
      simp only [Sprite.flag] at h
      split at h
      · next hleft =>
        rw [Bool.and_eq_true, beq_iff_eq] at h
        simp only [Sprite.drawing, if_pos h.1, Sprite.address, if_pos hleft]
        exact ⟨hleft, trivial⟩
      · next hleft =>
        split at h
        · next hright =>
          rw [Bool.and_eq_true, beq_iff_eq] at h
          have hodd : ¬ k.val % 2 = 0 := by omega
          simp only [Sprite.drawing, if_neg hodd, Sprite.address, if_neg hleft]
          exact ⟨hright, trivial⟩
        · cases h
  | flower k =>
      simp only [Sprite.flag, Bool.and_eq_true] at h
      exact ⟨h.1, rfl⟩
  | bullet k =>
      have hdrawn : s.bullets.drawn status p = some k := beq_iff_eq.mp h
      refine ⟨Bullets.drawn_eq_some hdrawn, ?_⟩
      rw [Sprite.address, hdrawn]
      rfl
  | _ => exact ⟨h, rfl⟩

/-- For every sprite, status and contents of the registers: where its flag is up, the
address is the row-major position of the pixel in the rectangle of the sprite, and so within
its image and its memory; and two pixels have different addresses. -/
theorem Sprite.address_row_major (status : BitVec 4) (s : Sprites) (r : Intro) (l : Sprite) :
    (∀ p, l.flag status s r p = true → ∃ row column : ℕ,
      (p.drawX.toNat : ℤ) = (l.origin s).1 + l.window.left + column ∧
      (p.drawY.toNat : ℤ) = (l.origin s).2 + l.window.top + row ∧
      column < l.width ∧ row < l.height ∧
      (l.address status s p).toNat = row * l.width + column ∧
      (l.address status s p).toNat < l.width * l.height ∧
      l.width * l.height ≤ l.romDepth) ∧
    ∀ p q, l.flag status s r p = true → l.flag status s r q = true → p ≠ q →
      l.address status s p ≠ l.address status s q := by
  have hshows := Sprite.shows s l
  constructor
  · intro p hp
    obtain ⟨hflag, haddress⟩ := Sprite.of_flag hp
    obtain ⟨row, column, hx, hy, hposition⟩ := hshows.row_major hflag
    have hlt := (finProdFinEquiv (row, column)).isLt
    rw [← haddress] at hposition
    rw [← hposition, Nat.mul_comm] at hlt
    refine ⟨row, column, hx, hy, column.isLt, row.isLt, ?_, hlt, ?_⟩
    · rw [hposition, finProdFinEquiv_apply_val, Nat.mul_comm, Nat.add_comm]
    · rw [Nat.mul_comm]
      exact l.fits
  · intro p q hp hq hne heq
    obtain ⟨hflag, haddress⟩ := Sprite.of_flag hp
    obtain ⟨hflag', haddress'⟩ := Sprite.of_flag hq
    obtain ⟨row, column, hx, hy, hposition⟩ := hshows.row_major hflag
    obtain ⟨row', column', hx', hy', hposition'⟩ := hshows.row_major hflag'
    rw [← haddress, heq, haddress', hposition'] at hposition
    have hsame := finProdFinEquiv.injective (Fin.ext hposition)
    obtain ⟨rfl, rfl⟩ := Prod.mk.inj hsame
    have hX : p.drawX = q.drawX := BitVec.eq_of_toNat_eq (by omega)
    have hY : p.drawY = q.drawY := BitVec.eq_of_toNat_eq (by omega)
    exact hne (congrArg₂ Pixel.mk hX hY)

/-- The sprites at power-up, with the heart near the corner of the screen. -/
def cornerSprites : Sprites :=
  { Sprites.zero with
    heart := { Heart.zero with mover := { Mover.zero with xPos := 5#10, yPos := 5#10 } } }

/-- The heart reaches over the corner, and its first two pixels on the screen differ. -/
theorem Sprite.address_row_major_corner :
    Sprite.heart.address 5#4 cornerSprites ⟨0#10, 0#10⟩ ≠
      Sprite.heart.address 5#4 cornerSprites ⟨1#10, 0#10⟩ :=
  (Sprite.address_row_major 5#4 cornerSprites Intro.clear .heart).2 ⟨0#10, 0#10⟩ ⟨1#10, 0#10⟩
    (by decide) (by decide) (by decide)

/-! ## The layers

What `Layers` and `Mapper` say in integers is what the modules compute. -/

/-- The pixel as seen from the position register. -/
def Sprite.dist (s : Sprites) (p : Pixel) (l : Sprite) : ℤ × ℤ :=
  (p.drawX.toNat - (l.origin s).1, p.drawY.toNat - (l.origin s).2)

theorem Sprite.dist_fixed {s : Sprites} {l : Sprite} (h : l.origin s = (0, 0)) (p : Pixel) :
    l.dist s p = p.place := by
  rw [Sprite.dist, h, Pixel.place, Int.sub_zero, Int.sub_zero]

section window
variable (status : BitVec 4) (s : Sprites) (p : Pixel) (l : Sprite)

theorem Sprite.flag_window :
    (l.drawing s).flag status p = l.window.covers status (l.dist s p) :=
  (Sprite.shows s l).flag_eq (by dsimp only [Sprite.dist]; omega)
    (by dsimp only [Sprite.dist]; omega)

theorem Sprite.address_window :
    (l.drawing s).address status p = l.window.address status (l.dist s p) :=
  (Sprite.shows s l).address_eq (by dsimp only [Sprite.dist]; omega)
    (by dsimp only [Sprite.dist]; omega)

theorem Sprite.dist_map1 : Sprite.map1.dist s p = s.map1.dist p := Prod.ext rfl (Int.sub_zero _)

theorem Sprite.dist_door : Sprite.door.dist s p = s.door.dist p := Prod.ext rfl (Int.sub_zero _)

theorem Sprite.flag_fixed {s : Sprites} {l : Sprite} (h : l.origin s = (0, 0)) :
    (l.drawing s).flag status p = l.window.covers status p.place := by
  rw [Sprite.flag_window, Sprite.dist_fixed h]

theorem Sprite.address_fixed {s : Sprites} {l : Sprite} (h : l.origin s = (0, 0)) :
    (l.drawing s).address status p = l.window.address status p.place := by
  rw [Sprite.address_window, Sprite.dist_fixed h]

theorem Bullets.isBullet_eq : s.bullets.isBullet status p = s.bullets.drawn status p := by
  unfold Bullets.isBullet Bullets.drawn
  congr 1
  funext k
  rw [show (bulletDrawing s.bullets k).flag status p = bulletWindow.covers status _ from
    Sprite.flag_window status s p (.bullet k)]
  rfl

/-- The pictures of the introduction, on the left and on the right. -/
theorem Intro.flag_fixed (s : Sprites) :
    introDrawing1.flag status p = introWindow1.covers status p.place ∧
      introDrawing2.flag status p = introWindow2.covers status p.place :=
  ⟨Sprite.flag_fixed status p (s := s) (l := .intro 0) rfl,
    Sprite.flag_fixed status p (s := s) (l := .intro 1) rfl⟩

theorem Intro.address_eq (k : Fin 10) :
    (Sprite.intro k).address status s p = Intro.address status p := by
  have hleft : introDrawing1.address status p = introWindow1.address status p.place :=
    Sprite.address_fixed status p (s := s) (l := .intro 0) rfl
  have hright : introDrawing2.address status p = introWindow2.address status p.place :=
    Sprite.address_fixed status p (s := s) (l := .intro 1) rfl
  rw [Sprite.address, Intro.address, (Intro.flag_fixed status p s).1, hleft, hright]

theorem Bullets.address_eq (k : Fin 15) :
    (Sprite.bullet k).address status s p = s.bullets.address status p := by
  rw [Sprite.address, Bullets.address, Bullets.isBullet_eq]
  cases h : s.bullets.drawn status p with
  | none => rfl
  | some j => exact Sprite.address_window status s p (.bullet j)

end window

/-- The layer of a sprite. -/
def Sprite.layer : Sprite → Layer
  | .title => .title
  | .intro k => .intro k
  | .map1 => .map1
  | .door => .door
  | .frisk => .frisk
  | .map2 => .map2
  | .frisk2 => .frisk2
  | .heart => .heart
  | .field => .field
  | .flower k => .flower k
  | .bullet _ => .bullets
  | .win => .win
  | .lose => .lose

section game
variable (g : Game) (p : Pixel)

/-- The flag of a layer with one sprite is the flag of the sprite. -/
theorem Game.flag_layer {l : Sprite} (hl : l.layer ≠ .bullets) :
    l.flag g.scene.status g.sprites g.intro p = g.flag p l.layer := by
  cases l with
  | title => exact Sprite.flag_fixed _ p (l := .title) rfl
  | intro k =>
      obtain ⟨hleft, hright⟩ := Intro.flag_fixed g.scene.status p g.sprites
      rw [Sprite.flag, hleft, hright]
      rfl
  | map1 =>
      refine (Sprite.flag_window _ g.sprites p .map1).trans ?_
      rw [Sprite.dist_map1]
      rfl
  | door =>
      refine (Sprite.flag_window _ g.sprites p .door).trans ?_
      rw [Sprite.dist_door]
      rfl
  | frisk => exact Sprite.flag_window _ g.sprites p .frisk
  | map2 => exact Sprite.flag_fixed _ p (l := .map2) rfl
  | frisk2 => exact Sprite.flag_window _ g.sprites p .frisk2
  | heart => exact Sprite.flag_window _ g.sprites p .heart
  | field => exact Sprite.flag_fixed _ p (l := .field) rfl
  | flower k =>
      have hflower : flowerDrawing.flag g.scene.status p =
          flowerWindow.covers g.scene.status p.place :=
        Sprite.flag_fixed _ p (s := g.sprites) (l := .flower k) rfl
      rw [Sprite.flag, hflower]
      rfl
  | bullet k => exact absurd rfl hl
  | win => exact Sprite.flag_fixed _ p (l := .win) rfl
  | lose => exact Sprite.flag_fixed _ p (l := .lose) rfl

/-- A flag other than the text's is up where one of the sprites of its layer is drawn. -/
theorem Game.flag_iff {l : Layer} (hl : l ≠ .front) :
    g.flag p l = true ↔
      ∃ k : Sprite, k.layer = l ∧ k.flag g.scene.status g.sprites g.intro p = true := by
  rcases eq_or_ne l .bullets with rfl | hne
  · rw [Game.flag, Bullets.isBullet_eq, Option.isSome_iff_exists]
    constructor
    · rintro ⟨k, hk⟩
      exact ⟨.bullet k, rfl, beq_iff_eq.mpr hk⟩
    · rintro ⟨k, hlayer, hk⟩
      cases k with
      | bullet k => exact ⟨k, beq_iff_eq.mp hk⟩
      | _ => cases hlayer
  · constructor
    · intro h
      obtain ⟨k, rfl⟩ : ∃ k : Sprite, k.layer = l := by
        cases l with
        | intro k => exact ⟨.intro k, rfl⟩
        | flower k => exact ⟨.flower k, rfl⟩
        | front => exact absurd rfl hl
        | bullets => exact absurd rfl hne
        | title => exact ⟨.title, rfl⟩
        | map1 => exact ⟨.map1, rfl⟩
        | door => exact ⟨.door, rfl⟩
        | frisk => exact ⟨.frisk, rfl⟩
        | map2 => exact ⟨.map2, rfl⟩
        | frisk2 => exact ⟨.frisk2, rfl⟩
        | heart => exact ⟨.heart, rfl⟩
        | field => exact ⟨.field, rfl⟩
        | win => exact ⟨.win, rfl⟩
        | lose => exact ⟨.lose, rfl⟩
      exact ⟨k, rfl, (Game.flag_layer g p hne).trans h⟩
    · rintro ⟨k, rfl, hk⟩
      exact (Game.flag_layer g p hne).symm.trans hk

/-- The mapper reads its colours at the addresses of the modules. -/
theorem Game.colors_eq (art : Art) :
    let address := Sprite.address g.scene.status g.sprites p
    g.colors art p =
      { t := art.title (address .title)
        i := fun k => art.intro k (address (.intro 0))
        m1 := art.map1 (address .map1)
        d := art.door (address .door)
        f := fun k => art.frisk k (address .frisk)
        m2 := art.map2 (address .map2)
        f2 := fun k => art.frisk k (address .frisk2)
        b :=
          if g.sprites.bullets.bulletShape = false then art.bullet1 (address (.bullet 0))
          else art.bullet2 (address (.bullet 0))
        h := art.heart (address .heart)
        fi := art.field (address .field)
        fl := fun k => art.flower k (address (.flower 0))
        win := art.win (address .win)
        lose := art.lose (address .lose) } := by
  have hfixed : ∀ l : Sprite, l.origin g.sprites = (0, 0) →
      (l.drawing g.sprites).address g.scene.status p =
        l.window.address g.scene.status p.place := fun l =>
    Sprite.address_fixed g.scene.status p
  have hmoving := Sprite.address_window g.scene.status g.sprites p
  dsimp only
  rw [Game.colors, Intro.address_eq, Bullets.address_eq, ← Sprite.dist_map1, ← Sprite.dist_door]
  congr 1
  · exact congrArg art.title (hfixed .title rfl).symm
  · exact congrArg art.map1 (hmoving .map1).symm
  · exact congrArg art.door (hmoving .door).symm
  · exact funext fun k => congrArg (art.frisk k) (hmoving .frisk).symm
  · exact congrArg art.map2 (hfixed .map2 rfl).symm
  · exact funext fun k => congrArg (art.frisk k) (hmoving .frisk2).symm
  · exact congrArg art.heart (hmoving .heart).symm
  · exact congrArg art.field (hfixed .field rfl).symm
  · exact funext fun k => congrArg (art.flower k) (hfixed (.flower 0) rfl).symm
  · exact congrArg art.win (hfixed .win rfl).symm
  · exact congrArg art.lose (hfixed .lose rfl).symm

end game

end Undertale
