import Chip8.Proofs.Loading

/-!
# Loading one program after the other

Memory can be loaded many times over. Each load meets the memory that the loads before it have left,
and one that is refused leaves that memory as it was. Programs may overlap, touch, be empty or fill
the whole of memory, and they come from cells that are handed over or from ROMs.

`Load.into_cases` says once what a single load answers, in the order of its checks, and what it does
to every byte. Since no load changes the size of memory, whether one is taken does not depend on the
loads before it, and a run can be read off the list of its loads: `Image.byteAt_afterAll` is by
induction along it, with `Image.byteAt_after` as the step.

The main statement is `Image.last_writer_wins`.
-/

namespace Chip8

instance (cells : Cells) : Decidable cells.AllBytes :=
  inferInstanceAs (Decidable (∀ value ∈ cells, 0 ≤ value ∧ value ≤ 255))

/-- A program and the address where it is loaded: cells that are handed over, or what a ROM holds. -/
inductive Load where
  | program (cells : Cells) (base : Nat)
  | rom (contents : Image) (base : Nat)

namespace Load

/-- What is loaded, as cells. -/
def cells : Load → Cells
  | .program cells _ => cells
  | .rom contents _ => contents.cells

/-- Where it is loaded. -/
def base : Load → Nat
  | .program _ base => base
  | .rom _ base => base

/-- Loads into an image. -/
def into (load : Load) (image : Image) : Except Fault Image :=
  image.load load.cells load.base

/-- Memory of the given size takes a load: it ends inside, and all its cells are bytes. -/
def Accepted (size : Nat) (load : Load) : Prop :=
  load.base + load.cells.size ≤ size ∧ load.cells.AllBytes

/-- The address lies under a load. -/
def Covers (load : Load) (address : Nat) : Prop :=
  load.base ≤ address ∧ address < load.base + load.cells.size

instance (size : Nat) (load : Load) : Decidable (load.Accepted size) :=
  inferInstanceAs (Decidable (_ ∧ _))

instance (load : Load) (address : Nat) : Decidable (load.Covers address) :=
  inferInstanceAs (Decidable (_ ∧ _))

/-- The last load over an address, of those that memory of the given size takes. -/
def lastOver (size address : Nat) (loads : List Load) : Option Load :=
  (loads.filter fun load => load.Accepted size ∧ load.Covers address).getLast?

/-! ## A single load -/

/-- What a load answers. The end of memory is looked at first, then the cells; a load that passes
both shows under itself and nowhere else. -/
theorem into_cases (load : Load) (image : Image) :
    (image.size < load.base + load.cells.size ∧
      ∃ cause, load.into image = .error (.bounds cause)) ∨
    (load.base + load.cells.size ≤ image.size ∧ ¬load.cells.AllBytes ∧
      ∃ value, load.into image = .error (.notAByte value)) ∨
    (load.Accepted image.size ∧
      ∃ next, load.into image = .ok next ∧ next.size = image.size ∧
        ∀ address, (next.byteAt address : Int) =
          if load.Covers address then load.cells.getD (address - load.base) 0
          else image.byteAt address) := by
  by_cases hfits : load.base + load.cells.size ≤ image.size
  · refine Or.inr ?_
    have hroom : ¬(image.size : Int) < load.base + load.cells.size := by omega
    by_cases hbytes : load.cells.AllBytes
    · refine Or.inr ⟨⟨hfits, hbytes⟩, ?_⟩
      -- cells that are bytes are the cells of an image, whose loading is known
      obtain ⟨program, _, hcells⟩ := Image.exists_ofCells hbytes
      have hsize : program.size = load.cells.size := by rw [← hcells, program.size_cells]
      obtain ⟨next, hload, hsame, hread⟩ :=
        image.load_of_fits program (Int.natCast_nonneg load.base) (by omega)
      rw [hcells] at hload
      refine ⟨next, hload, hsame, fun address => ?_⟩
      have hbyte : next.byteAt address =
          if load.Covers address then program.byteAt (address - load.base)
          else image.byteAt address := by
        rw [hread, hsize, Int.toNat_natCast]
        rfl
      rw [hbyte, ← hcells, program.getD_cells]
      split <;> rfl
    · obtain ⟨value, hvalue⟩ := Image.ofCells_of_not_allBytes hbytes
      refine Or.inl ⟨hfits, hbytes, value, ?_⟩
      rw [into, Image.load, if_neg hroom, hvalue]
      rfl
  · have hlong : (image.size : Int) < load.base + load.cells.size := by omega
    refine Or.inl ⟨by omega, .programTooLong load.cells.size load.base image.size, ?_⟩
    rw [into, Image.load, if_pos hlong]

/-- A load is taken exactly if it fits and is made of bytes. -/
theorem exists_into_iff (load : Load) (image : Image) :
    (∃ next, load.into image = .ok next) ↔ load.Accepted image.size := by
  rcases load.into_cases image with ⟨hlong, _, hfault⟩ | ⟨_, hbytes, _, hfault⟩ |
    ⟨haccepted, next, hnext, _⟩
  · refine iff_of_false ?_ fun h => absurd h.1 (by omega)
    rintro ⟨next, hnext⟩
    cases hnext.symm.trans hfault
  · refine iff_of_false ?_ fun h => hbytes h.2
    rintro ⟨next, hnext⟩
    cases hnext.symm.trans hfault
  · exact iff_of_true ⟨next, hnext⟩ haccepted

/-- The end of memory is complained about whatever the cells are, and also if there are none. -/
theorem exists_bounds_iff (load : Load) (image : Image) :
    (∃ cause, load.into image = .error (.bounds cause)) ↔
      image.size < load.base + load.cells.size := by
  rcases load.into_cases image with ⟨hlong, hfault⟩ | ⟨hfits, _, _, hother⟩ |
    ⟨haccepted, _, hnext, _⟩
  · exact iff_of_true hfault hlong
  · refine iff_of_false ?_ (by omega)
    rintro ⟨cause, hfault⟩
    cases hfault.symm.trans hother
  · have hfits := haccepted.1
    refine iff_of_false ?_ (by omega)
    rintro ⟨cause, hfault⟩
    cases hfault.symm.trans hnext

/-- Cells are complained about where the end of memory is not. -/
theorem exists_notAByte_iff (load : Load) (image : Image) :
    (∃ value, load.into image = .error (.notAByte value)) ↔
      load.base + load.cells.size ≤ image.size ∧ ¬load.cells.AllBytes := by
  rcases load.into_cases image with ⟨hlong, _, hother⟩ | ⟨hfits, hbytes, hfault⟩ |
    ⟨haccepted, _, hnext, _⟩
  · refine iff_of_false ?_ fun h => absurd h.1 (by omega)
    rintro ⟨value, hfault⟩
    cases hfault.symm.trans hother
  · exact iff_of_true hfault ⟨hfits, hbytes⟩
  · refine iff_of_false ?_ fun h => h.2 haccepted.2
    rintro ⟨value, hfault⟩
    cases hfault.symm.trans hnext

/-- A load counts if nothing behind it does. -/
theorem lastOver_cons (size address : Nat) (load : Load) (later : List Load) :
    lastOver size address (load :: later) =
      match lastOver size address later with
      | some last => some last
      | none => if load.Accepted size ∧ load.Covers address then some load else none := by
  unfold lastOver
  by_cases hcounts : load.Accepted size ∧ load.Covers address
  · rw [List.filter_cons_of_pos (by simpa using hcounts), List.getLast?_cons, if_pos hcounts]
    cases (later.filter _).getLast? <;> rfl
  · rw [List.filter_cons_of_neg (by simpa using hcounts), if_neg hcounts]
    cases (later.filter _).getLast? <;> rfl

end Load

/-! ## Runs -/

namespace Image

/-- The image after a load; a load that is refused leaves it as it was. -/
def after (image : Image) (load : Load) : Image :=
  match load.into image with
  | .ok next => next
  | .error _ => image

/-- The image after loads, one after the other. -/
def afterAll (image : Image) (loads : List Load) : Image :=
  loads.foldl after image

theorem after_of_into {image next : Image} {load : Load} (h : load.into image = .ok next) :
    image.after load = next := by
  rw [after, h]

theorem after_of_not_accepted {image : Image} {load : Load} (h : ¬load.Accepted image.size) :
    image.after load = image := by
  unfold after
  split
  next next hnext => exact absurd ((load.exists_into_iff image).mp ⟨next, hnext⟩) h
  next => rfl

theorem size_after (image : Image) (load : Load) : (image.after load).size = image.size := by
  by_cases haccepted : load.Accepted image.size
  · rcases load.into_cases image with ⟨hlong, _⟩ | ⟨_, hbytes, _⟩ | ⟨_, next, hnext, hsize, _⟩
    · exact absurd haccepted.1 (by omega)
    · exact absurd haccepted.2 hbytes
    · rw [after_of_into hnext, hsize]
  · rw [after_of_not_accepted haccepted]

/-- One load replaces the bytes under it, if it is taken, and no others. -/
theorem byteAt_after (image : Image) (load : Load) (address : Nat) :
    ((image.after load).byteAt address : Int) =
      if load.Accepted image.size ∧ load.Covers address then
        load.cells.getD (address - load.base) 0
      else image.byteAt address := by
  by_cases haccepted : load.Accepted image.size
  · rcases load.into_cases image with ⟨hlong, _⟩ | ⟨_, hbytes, _⟩ | ⟨_, next, hnext, _, hread⟩
    · exact absurd haccepted.1 (by omega)
    · exact absurd haccepted.2 hbytes
    · simp only [after_of_into hnext, hread, haccepted, true_and]
  · rw [after_of_not_accepted haccepted, if_neg fun h => haccepted h.1]

theorem size_afterAll (image : Image) (loads : List Load) :
    (image.afterAll loads).size = image.size := by
  induction loads generalizing image with
  | nil => rfl
  | cons load later ih =>
    show ((image.after load).afterAll later).size = image.size
    rw [ih, size_after]

/-- After a run a byte is that of the last load over it, or what it was at the start. -/
theorem byteAt_afterAll (image : Image) (loads : List Load) (address : Nat) :
    ((image.afterAll loads).byteAt address : Int) =
      match Load.lastOver image.size address loads with
      | some last => last.cells.getD (address - last.base) 0
      | none => image.byteAt address := by
  induction loads generalizing image with
  | nil => rfl
  | cons load later ih =>
    show (((image.after load).afterAll later).byteAt address : Int) = _
    -- the size is the same behind the first load, so that the later ones count as before
    rw [ih, size_after, byteAt_after, Load.lastOver_cons]
    cases Load.lastOver image.size address later with
    | some last => rfl
    | none =>
      by_cases hcounts : load.Accepted image.size ∧ load.Covers address
      · simp only [if_pos hcounts]
      · simp only [if_neg hcounts]

/-- Two loads that are taken and do not overlap can change places. -/
theorem into_comm (image : Image) {load other : Load} (hload : load.Accepted image.size)
    (hother : other.Accepted image.size)
    (hdisjoint : ∀ address, ¬(load.Covers address ∧ other.Covers address)) :
    ∃ out, (load.into image >>= other.into) = .ok out ∧
      (other.into image >>= load.into) = .ok out := by
  have hthen : ∀ {first second : Load}, first.Accepted image.size → second.Accepted image.size →
      (first.into image >>= second.into) = .ok (image.afterAll [first, second]) := by
    intro first second hfirst hsecond
    obtain ⟨next, hnext⟩ := (first.exists_into_iff image).mpr hfirst
    rw [← size_after image first] at hsecond
    obtain ⟨out, hout⟩ := (second.exists_into_iff _).mpr hsecond
    show _ = Except.ok ((image.after first).after second)
    rw [after_of_into hout, hnext, ← hout, after_of_into hnext]
    rfl
  have hsame : image.afterAll [load, other] = image.afterAll [other, load] := by
    apply ext_byteAt (by rw [size_afterAll, size_afterAll])
    intro address _
    have hapart := hdisjoint address
    apply Int.ofNat_inj.mp
    rw [byteAt_afterAll, byteAt_afterAll]
    simp only [Load.lastOver_cons, hload, hother, true_and]
    grind
  exact ⟨_, hthen hload hother, by rw [hsame]; exact hthen hother hload⟩

/-- **The last writer wins.** Along any run of loads, the image keeps its size and holds bytes. A load
fails exactly if it reaches past the end of memory, which is found out first, or if it has a cell that
is no byte. In the end every byte is that of the last load that was taken over its address, or as it
was at the start. Loads that are taken and do not overlap commute. -/
theorem last_writer_wins (image : Image) (loads : List Load) :
    (∀ earlier load later, loads = earlier ++ load :: later →
      let found := image.afterAll earlier
      found.size = image.size ∧ found.cells.AllBytes ∧
      ((∃ cause, load.into found = .error (.bounds cause)) ↔
        image.size < load.base + load.cells.size) ∧
      ((∃ value, load.into found = .error (.notAByte value)) ↔
        load.base + load.cells.size ≤ image.size ∧ ¬load.cells.AllBytes) ∧
      ((∃ next, load.into found = .ok next) ↔ load.Accepted image.size)) ∧
    (image.afterAll loads).size = image.size ∧ (image.afterAll loads).cells.AllBytes ∧
    (∀ address < image.size, ((image.afterAll loads).byteAt address : Int) =
      match Load.lastOver image.size address loads with
      | some last => last.cells.getD (address - last.base) 0
      | none => image.byteAt address) ∧
    ∀ load other : Load, load.Accepted image.size → other.Accepted image.size →
      (∀ address, ¬(load.Covers address ∧ other.Covers address)) →
      ∃ out, (load.into (image.afterAll loads) >>= other.into) = .ok out ∧
        (other.into (image.afterAll loads) >>= load.into) = .ok out := by
  refine ⟨?_, size_afterAll image loads, allBytes_cells _,
    fun address _ => byteAt_afterAll image loads address, ?_⟩
  · rintro earlier load later -
    have hsize := image.size_afterAll earlier
    have hbounds := load.exists_bounds_iff (image.afterAll earlier)
    have hvalues := load.exists_notAByte_iff (image.afterAll earlier)
    have htaken := load.exists_into_iff (image.afterAll earlier)
    rw [hsize] at hbounds hvalues htaken
    exact ⟨hsize, allBytes_cells _, hbounds, hvalues, htaken⟩
  · intro load other hload hother hdisjoint
    rw [← size_afterAll image loads] at hload hother
    exact into_comm _ hload hother hdisjoint

/-- Four loads into four bytes: one that is overwritten in part, one with a cell that is no byte, a
ROM up to the end of memory, and an empty one behind it. Two neighbours can change places. -/
theorem last_writer_wins_overlap :
    let image : Image := ⟨Array.replicate 4 0⟩
    let loads : List Load := [.program #[1, 2, 3] 0, .program #[300] 1, .rom ⟨#[9, 8]⟩ 2,
      .program #[] 5]
    (∃ value, Load.into (.program #[300] 1) (image.afterAll [.program #[1, 2, 3] 0]) =
      .error (.notAByte value)) ∧
    ((image.afterAll loads).byteAt 1 : Int) = 2 ∧ ((image.afterAll loads).byteAt 2 : Int) = 9 ∧
    ∃ out, (Load.into (.program #[5] 0) (image.afterAll loads) >>= Load.into (.program #[6, 7] 1)) =
        .ok out ∧
      (Load.into (.program #[6, 7] 1) (image.afterAll loads) >>= Load.into (.program #[5] 0)) =
        .ok out := by
  intro image loads
  obtain ⟨hcalls, _, _, hbytes, hcomm⟩ := last_writer_wins image loads
  refine ⟨?_, (hbytes 1 (by decide)).trans (by decide +kernel),
    (hbytes 2 (by decide)).trans (by decide +kernel), ?_⟩
  · obtain ⟨_, _, _, hvalue, _⟩ := hcalls [_] (.program #[300] 1) _ rfl
    exact hvalue.mpr (by decide)
  · refine hcomm (.program #[5] 0) (.program #[6, 7] 1) (by decide) (by decide) ?_
    rintro address ⟨⟨_, hend⟩, ⟨hstart, _⟩⟩
    change address < 0 + 1 at hend
    change 1 ≤ address at hstart
    omega

end Image

end Chip8
