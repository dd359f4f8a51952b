import Undertale.Vga
import Undertale.Flower

/-!
# The text of the introduction

The pages 1 to 6 of the introduction have a line of text each under their picture, of
three rows of twenty-five characters.  `is_front` is on in the pixels of the glyphs.
Unlike the flags of the pictures it reads the registers of `intro` only and does not
ask for the scene.
-/

namespace Undertale

/-! ## Glyphs and texts -/

/-- `ROM` of `font_rom`, one word for the sixteen rows of a glyph. -/
def fontRom : List ℕ :=
  [0x00000000000000000000000000000000, 0x00000000000000000018181830000000,
   0x00007cc6c6cedef6e6c6c67c00000000, 0x00001838781818181818187e00000000,
   0x00007cc6060c183060c0c6fe00000000, 0x00007cc606063c060606c67c00000000,
   0x00000c1c3c6cccfe0c0c0c1e00000000, 0x0000fec0c0c0fc060606c67c00000000,
   0x00003860c0c0fcc6c6c6c67c00000000, 0x0000fec606060c183030303000000000,
   0x00007cc6c6c67cc6c6c6c67c00000000, 0x00007cc6c6c67e0606060c7800000000,
   0x000010386cc6c6fec6c6c6c600000000, 0x0000fc6666667c66666666fc00000000,
   0x00003c66c2c0c0c0c0c2663c00000000, 0x0000f86c6666666666666cf800000000,
   0x0000fe6662687868606266fe00000000, 0x0000fe6662687868606060f000000000,
   0x00003c66c2c0c0dec6c6663a00000000, 0x0000c6c6c6c6fec6c6c6c6c600000000,
   0x00003c18181818181818183c00000000, 0x00001e0c0c0c0c0ccccccc7800000000,
   0x0000e666666c78786c6666e600000000, 0x0000f06060606060606266fe00000000,
   0x0000c3e7ffffdbc3c3c3c3c300000000, 0x0000c6e6f6fedecec6c6c6c600000000,
   0x00007cc6c6c6c6c6c6c6c67c00000000, 0x0000fc6666667c60606060f000000000,
   0x00007cc6c6c6c6c6c6d6de7c0c0e0000, 0x0000fc6666667c6c666666e600000000,
   0x00007cc6c660380c06c6c67c00000000, 0x0000ffdb991818181818183c00000000,
   0x0000c6c6c6c6c6c6c6c6c67c00000000, 0x0000c3c3c3c3c3c3c3663c1800000000,
   0x0000c3c3c3c3c3dbdbff666600000000, 0x0000c3c3663c18183c66c3c300000000,
   0x0000c3c3c3663c181818183c00000000, 0x0000ffc3860c183060c1c3ff00000000,
   0x0000000000780c7ccccccc7600000000, 0x0000e06060786c666666667c00000000,
   0x00000000007cc6c0c0c0c67c00000000, 0x00001c0c0c3c6ccccccccc7600000000,
   0x00000000007cc6fec0c0c67c00000000, 0x0000386c6460f060606060f000000000,
   0x000000000076cccccccccc7c0ccc7800, 0x0000e060606c7666666666e600000000,
   0x00001818003818181818183c00000000, 0x00000606000e06060606060666663c00,
   0x0000e06060666c78786c66e600000000, 0x00003818181818181818183c00000000,
   0x0000000000e6ffdbdbdbdbdb00000000, 0x0000000000dc66666666666600000000,
   0x00000000007cc6c6c6c6c67c00000000, 0x0000000000dc66666666667c6060f000,
   0x000000000076cccccccccc7c0c0c1e00, 0x0000000000dc7666606060f000000000,
   0x00000000007cc660380cc67c00000000, 0x0000103030fc30303030361c00000000,
   0x0000000000cccccccccccc7600000000, 0x0000000000c3c3c3c3663c1800000000,
   0x0000000000c3c3c3dbdbff6600000000, 0x0000000000c3663c183c66c300000000,
   0x0000000000c6c6c6c6c6c67e060cf800, 0x0000000000fecc183060c6fe00000000]

/-- `data` of `font_rom`. -/
def fontData (addr : BitVec 10) : BitVec 8 :=
  BitVec.ofNat 8 (fontRom.getD (addr.toNat / 16) 0 >>> (8 * (15 - addr.toNat % 16)))

/-! The texts `font1.txt` to `font6.txt`, as numbers of glyphs.  Past the end of a text the
memories are blank. -/

def font1 : List ℕ :=
  [23, 52, 51, 44, 0, 38, 44, 52, 1, 0, 57, 60, 52, 0, 55, 38, 40, 42, 56, 0, 0, 0, 0, 0, 0,
   55, 58, 49, 42, 41, 0, 52, 59, 42, 55, 0, 16, 38, 55, 57, 45, 0, 0, 0, 0, 0, 0, 0, 0, 0,
   19, 32, 24, 12, 25, 30, 0, 38, 51, 41, 0, 24, 26, 25, 30, 31, 16, 29]

def font2 : List ℕ :=
  [26, 51, 42, 0, 41, 38, 62, 1, 0, 60, 38, 55, 0, 39, 55, 52, 48, 42, 0, 0, 0, 0, 0, 0, 0,
   52, 58, 57, 0, 39, 42, 57, 60, 42, 42, 51, 0, 57, 45, 42, 0, 57, 60, 52, 0, 0, 0, 0, 0, 0,
   55, 38, 40, 42, 56]

def font3 : List ℕ :=
  [12, 43, 57, 42, 55, 0, 38, 0, 49, 52, 51, 44, 0, 39, 38, 57, 57, 49, 42, 1, 0, 0, 0, 0, 0,
   57, 45, 42, 0, 45, 58, 50, 38, 51, 56, 0, 60, 42, 55, 42, 0, 0, 0, 0, 0, 0, 0, 0, 0, 0,
   59, 46, 40, 57, 52, 55, 46, 52, 58, 56]

def font4 : List ℕ :=
  [31, 45, 42, 62, 0, 56, 42, 38, 49, 42, 41, 0, 57, 45, 42, 0, 50, 52, 51, 56, 57, 42, 55, 56, 0,
   58, 51, 41, 42, 55, 44, 55, 52, 58, 51, 41, 0, 60, 46, 57, 45, 0, 38, 0, 50, 38, 44, 46, 40, 0,
   56, 53, 42, 49, 49]

def font5 : List ℕ :=
  [0, 0, 0, 0, 0, 0, 0, 0, 24, 31, 0, 0, 16, 13, 26, 31, 31, 0, 0, 0, 0, 0, 0, 0, 0,
   0, 0, 0, 0, 0, 0, 0, 0, 0, 0, 4, 2, 3, 35]

def font6 : List ℕ :=
  [23, 42, 44, 42, 51, 41, 56, 0, 56, 38, 62, 0, 57, 45, 38, 57, 0, 57, 45, 52, 56, 42, 0, 0, 0,
   60, 45, 52, 0, 40, 49, 46, 50, 39, 0, 57, 45, 42, 0, 50, 52, 58, 51, 57, 38, 46, 51, 0, 0, 0,
   51, 42, 59, 42, 55, 0, 55, 42, 57, 58, 55, 51]

/-- `font_out`, by text. -/
def fontOut (text : List ℕ) (address : BitVec 7) : BitVec 6 :=
  BitVec.ofNat 6 (text.getD address.toNat 0)

/-! ## The text layer -/

/-- `row` and `col`: the character cell of a pixel. -/
def Pixel.row (p : Pixel) : BitVec 7 := (p.drawY.extractLsb' 4 6).setWidth 7

def Pixel.col (p : Pixel) : BitVec 7 := p.drawX.extractLsb' 3 7

/-- The pixel in the glyph of the text at `address`. -/
def Pixel.glyph (p : Pixel) (text : List ℕ) (address : BitVec 7) : Bool :=
  let fontAddr := ((fontOut text address).setWidth 10 <<< 4) + (p.drawY.extractLsb' 0 4).setWidth 10
  (fontData fontAddr).getLsbD (7 - (p.drawX.extractLsb' 0 3).toNat)

/-- The text on the left, if the page has one. -/
def Intro.text1 (r : Intro) : Option (List ℕ) :=
  if r.isSub1 then
    if r.introNum1 = 1#4 then some font1
    else if r.introNum1 = 3#4 then some font3
    else if r.introNum1 = 5#4 then some font5
    else none
  else none

/-- The text on the right, if the page has one. -/
def Intro.text2 (r : Intro) : Option (List ℕ) :=
  if r.isSub2 then
    if r.introNum2 = 2#4 then some font2
    else if r.introNum2 = 4#4 then some font4
    else if r.introNum2 = 6#4 then some font6
    else none
  else none

/-- `is_front`. -/
def Intro.isFront (r : Intro) (p : Pixel) : Bool :=
  if 15#7 ≤ p.row ∧ p.row ≤ 17#7 then
    if 10#7 ≤ p.col ∧ p.col ≤ 34#7 then
      r.text1.any fun text => p.glyph text (p.col - 10#7 + (p.row - 15#7) * 25#7)
    else if 45#7 ≤ p.col ∧ p.col ≤ 69#7 then
      r.text2.any fun text => p.glyph text (p.col - 45#7 + (p.row - 15#7) * 25#7)
    else false
  else false

/-! ## Pages with text -/

/-- `intro` shows a page with a text. -/
def Intro.HasText (r : Intro) : Prop := r.text1.isSome = true ∨ r.text2.isSome = true

theorem Intro.not_hasText_clear : ¬ Intro.clear.HasText := by
  rintro (h | h)
  · cases h
  · cases h

/-- A page without a text has no pixel in a glyph. -/
theorem Intro.hasText_of_isFront {r : Intro} {p : Pixel} (h : r.isFront p = true) : r.HasText := by
  unfold Intro.isFront at h
  split at h
  · split at h
    · left
      cases ht : r.text1 with
      | none => rw [ht] at h; cases h
      | some text => rfl
    · split at h
      · right
        cases ht : r.text2 with
        | none => rw [ht] at h; cases h
        | some text => rfl
      · cases h
  · cases h

theorem Intro.text1_mem {r : Intro} {text : List ℕ} (h : r.text1 = some text) :
    text = font1 ∨ text = font3 ∨ text = font5 := by
  unfold Intro.text1 at h
  split_ifs at h with hsub h1 h3 h5
  · exact .inl (Option.some.inj h).symm
  · exact .inr (.inl (Option.some.inj h).symm)
  · exact .inr (.inr (Option.some.inj h).symm)

theorem Intro.text2_mem {r : Intro} {text : List ℕ} (h : r.text2 = some text) :
    text = font2 ∨ text = font4 ∨ text = font6 := by
  unfold Intro.text2 at h
  split_ifs at h with hsub h2 h4 h6
  · exact .inl (Option.some.inj h).symm
  · exact .inr (.inl (Option.some.inj h).symm)
  · exact .inr (.inr (Option.some.inj h).symm)

/-- Every text has a glyph that is not blank. -/
theorem Intro.exists_isFront {r : Intro} (h : r.HasText) : ∃ p, r.isFront p = true := by
  rcases h with h | h
  · obtain ⟨text, ht⟩ := Option.isSome_iff_exists.mp h
    rcases Intro.text1_mem ht with rfl | rfl | rfl
    · exact ⟨⟨80#10, 242#10⟩, by rw [isFront, ht]; rfl⟩
    · exact ⟨⟨83#10, 242#10⟩, by rw [isFront, ht]; rfl⟩
    · exact ⟨⟨144#10, 242#10⟩, by rw [isFront, ht]; rfl⟩
  · obtain ⟨text, ht⟩ := Option.isSome_iff_exists.mp h
    rcases Intro.text2_mem ht with rfl | rfl | rfl
    · exact ⟨⟨361#10, 242#10⟩, by rw [isFront, ht]; rfl⟩
    · exact ⟨⟨360#10, 242#10⟩, by rw [isFront, ht]; rfl⟩
    · exact ⟨⟨360#10, 242#10⟩, by rw [isFront, ht]; rfl⟩

end Undertale
