import KernelArchive.Proofs.FileSystem.PlainNames

/-!
# File names and their extensions

* `Path.Ends p above name silent`: the last segment of `p` that counts is `name`; `above` stands
  before it, and only silent segments stand behind it.
* `Path.extension?_eq_some_iff`: the extension of a path is that of the name in which it ends.
* `Path.withExtension_of_ends`: a path with another extension leads to the file beside it that has
  this extension, whatever stands behind the name. There is one exception
  (`Path.withExtension_of_dots`): a name that is a dot and an extension, with nothing behind, is cut
  down to two dots, and these lead up (`FileSystem.read_of_up`).
-/

namespace KernelArchive
set_option autoImplicit false

/-! ## The last piece of a text -/

namespace Text

/-- What stands before the last of several pieces does not depend on it. -/
theorem toList_joined_concat (sep : Char) (above : List String) :
    ∃ lead : List Char, ∀ last : String,
      (joined sep (above ++ [last])).toList = lead ++ last.toList := by
  by_cases hne : above = []
  · refine ⟨[], fun last => ?_⟩
    rw [hne]
    simp [joined, glue]
  · refine ⟨(joined sep above).toList ++ [sep], fun last => ?_⟩
    rw [toList_joined_append sep hne (List.cons_ne_nil last [])]
    simp [joined, glue]

/-- Pieces, each with a separator before it. -/
def trail (sep : Char) (pieces : List String) : List Char :=
  pieces.flatMap fun piece => sep :: piece.toList

theorem length_trail_eq_zero (sep : Char) (pieces : List String) :
    (trail sep pieces).length = 0 ↔ pieces = [] := by
  cases pieces <;> simp [trail]

theorem toList_joined_trail (sep : Char) (above pieces : List String) (last : String) :
    (joined sep (above ++ last :: pieces)).toList =
      (joined sep (above ++ [last])).toList ++ trail sep pieces := by
  induction pieces generalizing above last with
  | nil => rw [trail, List.flatMap_nil, List.append_nil]
  | cons next rest ih =>
    have hbefore : above ++ [last] ≠ [] := by simp
    have hnext := toList_joined_append sep hbefore (List.cons_ne_nil next [])
    rw [List.append_cons, ih, hnext, trail, trail, List.flatMap_cons, List.append_assoc]
    simp [joined, glue]

end Text

namespace Path

variable {p : Path} {above silent : List String} {name stem ext old : String}

theorem single_of_silent {s : String} (h : isSilent s = true) : '/' ∉ s.toList := by
  obtain rfl | rfl := isSilent_iff.1 h <;> decide

/-- A beginning of silent segments is made of silent segments. -/
theorem take_trail (h : ∀ s ∈ silent, isSilent s = true) (n : Nat) :
    ∃ kept, (∀ s ∈ kept, isSilent s = true) ∧
      (Text.trail '/' silent).take n = Text.trail '/' kept := by
  induction silent generalizing n with
  | nil => exact ⟨[], h, List.take_nil⟩
  | cons s rest ih =>
    obtain ⟨hs, hrest⟩ := List.forall_mem_cons.1 h
    rw [Text.trail, List.flatMap_cons, ← Text.trail]
    have hcons : ∀ (s : String) (kept : List String), isSilent s = true →
        (∀ s ∈ kept, isSilent s = true) → ∀ t ∈ s :: kept, isSilent t = true :=
      fun s kept hs hkept => List.forall_mem_cons.2 ⟨hs, hkept⟩
    obtain rfl | rfl := isSilent_iff.1 hs
    · cases n with
      | zero => exact ⟨[], nofun, rfl⟩
      | succ n =>
        obtain ⟨kept, hkept, htake⟩ := ih hrest n
        exact ⟨"" :: kept, hcons "" kept rfl hkept, congrArg ('/' :: ·) htake⟩
    · match n with
      | 0 => exact ⟨[], nofun, rfl⟩
      | 1 => exact ⟨[""], by decide, rfl⟩
      | n + 2 =>
        obtain ⟨kept, hkept, htake⟩ := ih hrest n
        exact ⟨"." :: kept, hcons "." kept rfl hkept, congrArg ('/' :: '.' :: ·) htake⟩

theorem length_toList_pos {s : String} (h : s ≠ "") : 0 < s.toList.length :=
  List.length_pos_iff.2 (mt String.toList_eq_nil_iff.1 h)

theorem length_name (stem ext : String) :
    (stem ++ "." ++ ext).toList.length = stem.toList.length + 1 + ext.toList.length := by
  rw [String.toList_append, String.toList_append, List.length_append, List.length_append]
  rfl

theorem counts_of_stem (hstem : stem ≠ "") (ext : String) :
    isSilent (stem ++ "." ++ ext) = false := by
  have hpos := length_toList_pos hstem
  have hlen := length_name stem ext
  refine counts_of_ne (fun hshort => ?_) fun hshort => ?_
  · rw [hshort, String.toList_empty, List.length_nil] at hlen
    omega
  · rw [hshort] at hlen
    change 1 = _ at hlen
    omega

theorem ne_up_of_stem (hstem : stem ≠ "") (h : ¬(stem = "." ∧ ext = "")) :
    stem ++ "." ++ ext ≠ ".." := by
  intro hup
  have hpos := length_toList_pos hstem
  have hlen := length_name stem ext
  by_cases hext : ext = ""
  · rw [hext, String.append_empty, ← String.toList_inj, String.toList_append] at hup
    refine h ⟨?_, hext⟩
    rw [← String.toList_inj]
    exact List.append_cancel_right hup
  · have hpos' := length_toList_pos hext
    rw [hup] at hlen
    change 2 = _ at hlen
    omega

theorem ne_up_of_extension (hstem : stem ≠ "") (hext : ext ≠ "") : stem ++ "." ++ ext ≠ ".." :=
  ne_up_of_stem hstem fun h => hext h.2

/-! ## The last segment that counts -/

/-- The last segment of the path that counts is this name. -/
structure Ends (p : Path) (above : List String) (name : String) (silent : List String) : Prop where
  segments : p.segments = above ++ name :: silent
  silent : ∀ s ∈ silent, isSilent s = true
  counts : isSilent name = false

theorem Ends.single (h : p.Ends above name silent) : ∀ s ∈ above ++ [name], '/' ∉ s.toList := by
  intro s hs
  refine Text.sep_notMem_segments (s := p.text) ?_
  show s ∈ p.segments
  rw [h.segments, List.append_cons]
  exact List.mem_append_left silent hs

theorem Ends.text (h : p.Ends above name silent) :
    p.text.toList = (Text.joined '/' (above ++ [name])).toList ++ Text.trail '/' silent := by
  rw [← Text.toList_joined_trail, ← h.segments]
  exact congrArg String.toList (Text.joined_segments '/' p.text).symm

theorem ends_of_text (hsingle : ∀ s ∈ above ++ [name], '/' ∉ s.toList)
    (hcounts : isSilent name = false) (hsilent : ∀ s ∈ silent, isSilent s = true)
    (h : p.text.toList = (Text.joined '/' (above ++ [name])).toList ++ Text.trail '/' silent) :
    p.Ends above name silent := by
  refine ⟨?_, hsilent, hcounts⟩
  rw [← Text.toList_joined_trail, String.toList_inj] at h
  rw [segments, h]
  refine Text.segments_joined (by simp) fun s hs => ?_
  rw [List.append_cons, List.mem_append] at hs
  obtain hs | hs := hs
  · exact hsingle s hs
  · exact single_of_silent (hsilent s hs)

/-- A path whose last segment is cut short within its extension. -/
theorem Ends.shortened (rest : String) (h : p.Ends above (stem ++ "." ++ old) silent)
    (hstem : stem ≠ "") (hrest : ∀ c ∈ rest.toList, c ∈ old.toList) :
    Ends ⟨Text.joined '/' (above ++ [stem ++ "." ++ rest])⟩ above (stem ++ "." ++ rest) [] := by
  refine ends_of_text (fun s hs => ?_) (counts_of_stem hstem rest) nofun ?_
  · obtain hs | hs := List.mem_append.1 hs
    · exact h.single s (List.mem_append_left _ hs)
    · have hname := h.single _ (List.mem_append_right above (List.mem_singleton_self _))
      obtain rfl := List.mem_singleton.1 hs
      simp only [String.toList_append, List.mem_append, not_or] at hname ⊢
      exact ⟨hname.1, mt (hrest '/') hname.2⟩
  · rw [Text.trail, List.flatMap_nil, List.append_nil]

theorem Anchor.isSilent_segments (a : Anchor) : ∀ s ∈ a.segments, isSilent s = true := by
  cases a <;> decide

theorem ends_iff_reversedBody :
    (∃ silent, p.Ends above name silent) ↔
      ∃ body, above = p.parts.1.segments ++ body.reverse ∧ p.reversedBody = name :: body := by
  have hparts : p.segments = p.parts.1.segments ++ p.parts.2 := segments_of_parts rfl
  constructor
  · rintro ⟨silent, hends⟩
    have hdrop : p.segments.reverse.dropWhile isSilent = name :: above.reverse :=
      reverse_dropWhile_eq_cons.2
        ⟨hends.counts, silent, hends.silent, by rw [List.reverse_reverse, hends.segments]⟩
    have hstart : p.parts.1.segments.reverse.dropWhile isSilent = [] :=
      List.dropWhile_eq_nil_iff.2 fun s hs =>
        p.parts.1.isSilent_segments s (List.mem_reverse.1 hs)
    rw [hparts, List.reverse_append, List.dropWhile_append, hstart, ← reversedBody] at hdrop
    cases hbody : p.reversedBody with
    | nil => simp [hbody] at hdrop
    | cons last body =>
      simp only [hbody, List.isEmpty_cons, Bool.false_eq_true, if_false, List.cons_append,
        List.cons.injEq] at hdrop
      refine ⟨body, ?_, by rw [hdrop.1]⟩
      rw [← List.reverse_reverse above, ← hdrop.2, List.reverse_append, List.reverse_reverse]
  · rintro ⟨body, rfl, hbody⟩
    obtain ⟨hcounts, silent, hsilent, hseg⟩ := reverse_dropWhile_eq_cons.1 hbody
    exact ⟨silent, by rw [hparts, hseg, List.append_assoc], hsilent, hcounts⟩

theorem fileName?_eq_some_iff :
    p.fileName? = some name ↔ name ≠ ".." ∧ ∃ above silent, p.Ends above name silent := by
  have hends : (∃ above silent, p.Ends above name silent) ↔
      ∃ body, p.reversedBody = name :: body := by
    simp only [ends_iff_reversedBody]
    constructor
    · rintro ⟨_, body, -, hbody⟩
      exact ⟨body, hbody⟩
    · rintro ⟨body, hbody⟩
      exact ⟨_, body, rfl, hbody⟩
  rw [hends, fileName?]
  cases p.reversedBody with
  | nil => simp
  | cons last body =>
    by_cases hup : last = ".."
    · simp only [hup, if_true]
      constructor
      · nofun
      · rintro ⟨hne, body', hbody⟩
        exact absurd (List.cons.inj hbody).1.symm hne
    · simp only [hup, if_false, Option.some.injEq, List.cons.injEq, exists_and_left,
        exists_eq', and_true]
      constructor
      · rintro rfl
        exact ⟨hup, rfl⟩
      · exact fun h => h.2

/-! ## Extensions -/

theorem stemAndExtension_eq_some_iff :
    stemAndExtension name = (stem, some ext) ↔
      name = stem ++ "." ++ ext ∧ stem ≠ "" ∧ '.' ∉ ext.toList := by
  constructor
  · intro h
    simp only [stemAndExtension] at h
    split at h
    · next dot c cs hdrop =>
      obtain ⟨hdot, gone, hgone, hname⟩ := reverse_dropWhile_eq_cons.1 hdrop
      have hdot : dot = '.' := by simpa using hdot
      have htake : name.toList.reverse.takeWhile (· != '.') = gone.reverse := by
        have hsplit : name.toList.reverse.takeWhile (· != '.') ++
            name.toList.reverse.dropWhile (· != '.') = name.toList.reverse :=
          List.takeWhile_append_dropWhile
        rw [hdrop] at hsplit
        nth_rewrite 2 [hname] at hsplit
        simpa using hsplit
      rw [htake, List.reverse_reverse] at h
      obtain ⟨rfl, hext⟩ := Prod.mk.inj h
      obtain rfl := Option.some.inj hext
      refine ⟨?_, ?_, ?_⟩
      · rw [← String.toList_inj, hname, hdot]
        simp
      · simp
      · intro hmem
        rw [String.toList_ofList] at hmem
        exact absurd (hgone '.' hmem) (by decide)
    · cases h
  · rintro ⟨rfl, hstem, hext⟩
    have hrev : (stem ++ "." ++ ext).toList.reverse =
        ext.toList.reverse ++ '.' :: stem.toList.reverse := by simp
    have hkept : ∀ c ∈ ext.toList.reverse, (c != '.') = true := by
      intro c hc
      rw [bne_iff_ne]
      rintro rfl
      exact hext (List.mem_reverse.1 hc)
    obtain ⟨c, cs, hcs⟩ : ∃ c cs, stem.toList.reverse = c :: cs :=
      List.exists_cons_of_ne_nil (by simpa using hstem)
    have hstop : ('.' :: stem.toList.reverse).dropWhile (· != '.') = '.' :: c :: cs := by
      rw [hcs]
      rfl
    have hnone : ('.' :: stem.toList.reverse).takeWhile (· != '.') = [] := rfl
    unfold stemAndExtension
    simp only [hrev, List.dropWhile_append_of_pos hkept, List.takeWhile_append_of_pos hkept, hstop,
      hnone]
    rw [← hcs, List.append_nil, List.reverse_reverse, List.reverse_reverse, String.ofList_toList,
      String.ofList_toList]

theorem extension?_eq_some_iff (hext : ext ≠ "") :
    p.extension? = some ext ↔ '.' ∉ ext.toList ∧
      ∃ above stem silent, stem ≠ "" ∧ p.Ends above (stem ++ "." ++ ext) silent := by
  rw [extension?, Option.bind_eq_some_iff]
  constructor
  · rintro ⟨name, hname, hcut⟩
    obtain ⟨-, above, silent, hends⟩ := fileName?_eq_some_iff.1 hname
    obtain ⟨hsplit, hstem, hdot⟩ := stemAndExtension_eq_some_iff.1
      (Prod.ext rfl hcut : stemAndExtension name = ((stemAndExtension name).1, some ext))
    exact ⟨hdot, above, _, silent, hstem, hsplit ▸ hends⟩
  · rintro ⟨hdot, above, stem, silent, hstem, hends⟩
    refine ⟨_, fileName?_eq_some_iff.2 ⟨ne_up_of_extension hstem hext, above, silent, hends⟩, ?_⟩
    rw [stemAndExtension_eq_some_iff.2 ⟨rfl, hstem, hdot⟩]

theorem text_ofParts (a : Anchor) {body : List String} (hne : body ≠ []) :
    (ofParts a body).text = Text.joined '/' (a.segments ++ body) := by
  cases a with
  | root =>
    rw [← String.toList_inj, Anchor.segments, Text.toList_joined_append '/' (by simp) hne, ofParts,
      String.toList_append]
    rfl
  | here => rfl
  | bare => rfl

theorem replaceExtension_of_ends (h : p.Ends above (stem ++ "." ++ old) silent) (hstem : stem ≠ "")
    (hdot : '.' ∉ old.toList) (hup : stem ++ "." ++ old ≠ "..") (ext : String) :
    p.replaceExtension ext = ⟨Text.joined '/' (above ++ [stem ++ "." ++ ext])⟩ := by
  obtain ⟨body, habove, hbody⟩ := ends_iff_reversedBody.1 ⟨silent, h⟩
  obtain ⟨lead, hlead⟩ := Text.toList_joined_concat '/' above
  unfold replaceExtension
  simp only [fileName?_eq_some_iff.2 ⟨hup, above, silent, h⟩,
    stemAndExtension_eq_some_iff.2 ⟨rfl, hstem, hdot⟩, hbody, List.tail_cons]
  rw [text_ofParts _ (by simp), List.reverse_cons, ← List.append_assoc, ← habove, Path.mk.injEq,
    ← String.toList_inj]
  simp only [String.toList_append, hlead, List.append_assoc]

/-- As many characters as the old extension has are taken off the end of the text. -/
theorem withExtension_eq {kept gone : List Char} (hold : p.extension? = some old)
    (htext : p.text.toList = kept ++ gone) (hlen : gone.length = old.toList.length) (ext : String) :
    p.withExtension ext = replaceExtension ⟨String.ofList kept⟩ ext := by
  simp only [withExtension, hold, Option.getD_some]
  rw [htext, List.length_append, ← hlen, Nat.add_sub_cancel, List.take_left]

/-- If less stands behind the name than the extension has characters, all of that goes, and the rest
of the extension stays. -/
theorem withExtension_of_short (rest : String) (h : p.Ends above (stem ++ "." ++ old) silent)
    (hext : p.extension? = some old) (hshort : (Text.trail '/' silent).length ≤ old.toList.length)
    (hrest : rest.toList = old.toList.take (Text.trail '/' silent).length) (ext : String) :
    p.withExtension ext =
      replaceExtension ⟨Text.joined '/' (above ++ [stem ++ "." ++ rest])⟩ ext := by
  obtain ⟨lead, hlead⟩ := Text.toList_joined_concat '/' above
  have hcut : p.text.toList = (Text.joined '/' (above ++ [stem ++ "." ++ rest])).toList ++
      (old.toList.drop (Text.trail '/' silent).length ++ Text.trail '/' silent) := by
    have hsplit := List.take_append_drop (Text.trail '/' silent).length old.toList
    rw [h.text, hlead, hlead]
    simp only [String.toList_append, List.append_assoc, hrest]
    rw [← List.append_assoc (List.take _ _), hsplit]
  rw [withExtension_eq hext hcut, String.ofList_toList]
  rw [List.length_append, List.length_drop]
  omega

/-- If more stands behind the name, the name stays. -/
theorem withExtension_of_long (h : p.Ends above (stem ++ "." ++ old) silent)
    (hext : p.extension? = some old) (hlong : old.toList.length ≤ (Text.trail '/' silent).length) :
    ∃ q kept, q.Ends above (stem ++ "." ++ old) kept ∧
      ∀ ext, p.withExtension ext = replaceExtension q ext := by
  let n := (Text.trail '/' silent).length - old.toList.length
  obtain ⟨kept, hkept, htake⟩ := take_trail h.silent n
  have hcut : p.text.toList = ((Text.joined '/' (above ++ [stem ++ "." ++ old])).toList ++
      Text.trail '/' kept) ++ (Text.trail '/' silent).drop n := by
    rw [h.text, List.append_assoc, ← htake, List.take_append_drop]
  refine ⟨⟨String.ofList ((Text.joined '/' (above ++ [stem ++ "." ++ old])).toList ++
    Text.trail '/' kept)⟩, kept, ?_, fun ext => withExtension_eq hext hcut ?_ ext⟩
  · exact ends_of_text h.single h.counts hkept (String.toList_ofList)
  · rw [List.length_drop]
    omega

/-- The path with another extension leads to the file beside it, whatever stands behind the name. -/
theorem withExtension_of_ends (h : p.Ends above (stem ++ "." ++ old) silent) (hstem : stem ≠ "")
    (hold : old ≠ "") (hdot : '.' ∉ old.toList) (hdots : ¬(stem = "." ∧ silent = []))
    (ext : String) :
    p.withExtension ext = ⟨Text.joined '/' (above ++ [stem ++ "." ++ ext])⟩ := by
  have hext : p.extension? = some old :=
    (extension?_eq_some_iff hold).2 ⟨hdot, above, stem, silent, hstem, h⟩
  obtain hlong | hshort := Nat.le_total old.toList.length (Text.trail '/' silent).length
  · obtain ⟨q, kept, hends, hcut⟩ := withExtension_of_long h hext hlong
    rw [hcut]
    exact replaceExtension_of_ends hends hstem hdot (ne_up_of_extension hstem hold) ext
  · let rest := String.ofList (old.toList.take (Text.trail '/' silent).length)
    have hrest : rest.toList = old.toList.take (Text.trail '/' silent).length :=
      String.toList_ofList
    have hsub : ∀ c ∈ rest.toList, c ∈ old.toList := by
      rw [hrest]
      exact fun c => List.mem_of_mem_take
    rw [withExtension_of_short rest h hext hshort hrest]
    refine replaceExtension_of_ends (h.shortened rest hstem hsub) hstem (mt (hsub '.') hdot) ?_ ext
    refine ne_up_of_stem hstem fun ⟨hone, hempty⟩ => hdots ⟨hone, ?_⟩
    -- nothing is left of the extension only if nothing stood behind the name
    rw [← String.toList_eq_nil_iff, hrest, List.take_eq_nil_iff] at hempty
    obtain hnone | hnone := hempty
    · exact (Text.length_trail_eq_zero '/' silent).1 hnone
    · exact absurd (String.toList_eq_nil_iff.1 hnone) hold

example : (⟨"b.c/a.b.cubin/."⟩ : Path).withExtension "py" = ⟨"b.c/a.b.py"⟩ := by decide +kernel

/-- With nothing behind it, a name that is a dot and an extension is cut down to two dots. -/
theorem withExtension_of_dots (h : p.Ends above ("." ++ "." ++ old) []) (hold : old ≠ "")
    (hdot : '.' ∉ old.toList) (ext : String) : (p.withExtension ext).Ends above ".." [] := by
  have hext : p.extension? = some old :=
    (extension?_eq_some_iff hold).2 ⟨hdot, above, ".", [], by decide, h⟩
  have hends : Ends ⟨Text.joined '/' (above ++ [".."])⟩ above ".." [] :=
    h.shortened "" (by decide) nofun
  have hnone : fileName? ⟨Text.joined '/' (above ++ [".."])⟩ = none := by
    obtain ⟨body, -, hbody⟩ := ends_iff_reversedBody.1 ⟨[], hends⟩
    rw [fileName?, hbody]
    rfl
  have hdots : "." ++ "." ++ "" = ".." := rfl
  rw [withExtension_of_short "" h hext (Nat.zero_le _) rfl, hdots, replaceExtension, hnone]
  exact hends

end Path

namespace FileSystem

/-- No file is read where a path leads up. -/
theorem read_of_up {fs : FileSystem} {p : Path} {above : List String}
    (h : p.segments = above ++ [".."]) (bytes : ByteArray) : fs.read p ≠ .ok bytes := by
  intro hread
  unfold read at hread
  split at hread
  · cases hread
  · next loc hres =>
    obtain ⟨-, hwalk⟩ := resolve_eq_ok_iff.1 hres
    rw [h, FileTree.walk_append_eq_ok] at hwalk
    obtain ⟨mid, -, hlast⟩ := hwalk
    obtain ⟨next, hstep, hnext⟩ := FileTree.walk_cons_eq_ok.1 hlast
    obtain ⟨hdir, rfl, -⟩ := FileTree.step_eq_ok_iff.1 hstep
    obtain rfl := Except.ok.inj hnext
    have hup : fs.tree.lookup (Location.descend mid "..") = some .directory :=
      FileTree.lookup_dropLast hdir
    rw [hup] at hread
    cases hread

end FileSystem
end KernelArchive
