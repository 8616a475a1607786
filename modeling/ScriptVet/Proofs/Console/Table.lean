import Mathlib.Data.List.SplitBy
import ScriptVet.Proofs.Console.Markup

/-!
# Printing lines and tables

Setting lines in cells brings in no characters but blanks and the dots for what is cut off, and a
table no others but those it is drawn with. So what is drawn from whole texts is whole, and a table
is printed whenever its titles and cells can be read.
-/

namespace ScriptVet

/-- The parts of a text hold characters of the text. -/
theorem Text.mem_of_mem_split {separator : Char} {cs part : List Char} {c : Char}
    (h : part ∈ split separator cs) (hc : c ∈ part) : c ∈ cs := by
  induction cs generalizing part with
  | nil =>
      obtain rfl := List.mem_singleton.mp h
      exact hc
  | cons d rest ih =>
      rw [split] at h
      split at h
      · rcases List.mem_cons.mp h with rfl | later
        · cases hc
        · exact List.mem_cons_of_mem d (ih later hc)
      · split at h
        · obtain rfl := List.mem_singleton.mp h
          exact List.mem_cons.mpr (.inl (List.mem_singleton.mp hc))
        · next piece pieces parts =>
          rcases List.mem_cons.mp h with rfl | later
          · rcases List.mem_cons.mp hc with rfl | inner
            · exact List.mem_cons_self
            · exact List.mem_cons_of_mem d (ih (by rw [parts]; exact List.mem_cons_self) inner)
          · exact List.mem_cons_of_mem d
              (ih (by rw [parts]; exact List.mem_cons_of_mem piece later) hc)

namespace Console

section

variable {P : Char → Prop} {cs : List Char}

/-! ## Lines -/

theorem forall_mem_alignParts (blank : P ' ') {parts : List (List Char)}
    (h : ∀ part ∈ parts, ∀ c ∈ part, P c) (column : Nat) : ∀ c ∈ alignParts column parts, P c := by
  induction parts generalizing column with
  | nil => simp [alignParts]
  | cons part rest ih =>
      rw [List.forall_mem_cons] at h
      cases rest with
      | nil => exact h.1
      | cons next rest =>
          simp only [alignParts, blanks, List.forall_mem_append]
          refine ⟨⟨⟨h.1, by simpa using blank⟩, fun c hc => ?_⟩, ih h.2 _⟩
          rw [List.eq_of_mem_replicate hc]
          exact blank

/-- Lines hold the characters of the text, and blanks in place of tabs. -/
theorem Marked.forall_mem_lines (blank : P ' ') {marked : Marked} (h : ∀ c ∈ marked.text, P c) :
    ∀ line ∈ marked.lines, ∀ c ∈ line, P c := by
  intro line hline
  obtain ⟨part, hpart, rfl⟩ := List.mem_map.mp hline
  refine forall_mem_alignParts blank (fun piece hpiece c hc => ?_) 0
  exact h c (Text.mem_of_mem_split hpart (Text.mem_of_mem_split hpiece hc))

/-! ## Setting lines in cells -/

theorem forall_mem_trimEnd (h : ∀ c ∈ cs, P c) : ∀ c ∈ trimEnd cs, P c := by
  intro c hc
  have back := (List.dropWhile_sublist _).mem (List.mem_reverse.mp hc)
  exact h c (List.mem_reverse.mp back)

theorem flatten_joinRuns (runs : List (List Char)) : (joinRuns runs).flatten = runs.flatten := by
  fun_induction joinRuns runs with
  | case1 word gap rest ih => simp [ih]
  | case2 rest other => rfl

/-- Words hold characters of their line. -/
theorem flatten_lineWords_sublist (cs : List Char) : (lineWords cs).flatten.Sublist cs := by
  have runs : (blankRuns cs).flatten = cs := List.flatten_splitBy _ cs
  rw [lineWords]
  split
  · next first rest split =>
    rw [split] at runs
    split
    · rw [flatten_joinRuns, runs]
    · split
      · next second others =>
        rw [flatten_joinRuns]
        simp [← runs]
      · exact List.nil_sublist cs
  · exact List.nil_sublist cs

theorem forall_mem_breakLine (width : Nat) (h : ∀ c ∈ cs, P c) :
    ∀ line ∈ breakLine width cs, ∀ c ∈ line, P c := by
  intro line hline c hc
  rw [breakLine] at hline
  split at hline
  · rw [List.mem_singleton.mp hline] at hc
    exact h c hc
  · have whole : c ∈ (breakBefore width [] 0 (lineWords cs)).flatten :=
      List.mem_flatten_of_mem hline hc
    rw [flatten_breakBefore, List.nil_append] at whole
    exact h c ((flatten_lineWords_sublist cs).mem whole)

namespace Cluster

/-- All clusters hold only characters with a property. -/
abbrev AllHold (P : Char → Prop) (clusters : List Cluster) : Prop :=
  ∀ cluster ∈ clusters, ∀ c ∈ cluster.chars, P c

theorem AllHold.extend {last : Cluster} {done : List Cluster} (h : AllHold P (last :: done))
    {more : List Char} (hmore : ∀ c ∈ more, P c) (growth : Nat) :
    AllHold P (last.extend more growth :: done) := by
  rw [AllHold, List.forall_mem_cons] at h ⊢
  refine ⟨?_, h.2⟩
  rw [Cluster.extend, List.forall_mem_append]
  exact ⟨h.1, hmore⟩

theorem AllHold.cons {done : List Cluster} (h : AllHold P done) {c : Char} (hc : P c)
    (width : Nat) : AllHold P (⟨[c], width⟩ :: done) := by
  rw [AllHold, List.forall_mem_cons]
  exact ⟨by simpa using hc, h⟩

theorem AllHold.reverse {done : List Cluster} (h : AllHold P done) : AllHold P done.reverse :=
  fun cluster hcluster => h cluster (List.mem_reverse.mp hcluster)

/-- Clusters hold the characters that they are collected from. -/
theorem AllHold.collect {last? : Option Char} {done : List Cluster} (before : AllHold P done)
    (h : ∀ c ∈ cs, P c) : AllHold P (collect last? done cs) := by
  fun_induction Cluster.collect last? done cs with
  | case1 last? done => exact before.reverse
  | case2 last? c rest width ih =>
      rw [List.forall_mem_cons] at h
      exact ih (before.cons h.1 _) h.2
  | case3 last? last done => exact (before.extend h 0).reverse
  | case4 last? last done noJoiner => exact (before.extend h _).reverse
  | case5 last? last done c noJoiner noSelector width empty => exact (before.extend h 0).reverse
  | case6 last? last done c noJoiner noSelector width some =>
      exact (before.cons (h c (List.mem_singleton_self c)) _).reverse
  | case7 last? last done next rest ih =>
      rw [List.forall_mem_cons, List.forall_mem_cons] at h
      exact ih (before.extend (by simpa using ⟨h.1, h.2.1⟩) 0) h.2.2
  | case8 last? last done next rest noJoiner wider ih =>
      rw [List.forall_mem_cons] at h
      exact ih (before.extend (by simpa using h.1) _) h.2
  | case9 last? last done c next rest noJoiner noSelector width empty ih =>
      rw [List.forall_mem_cons] at h
      exact ih (before.extend (by simpa using h.1) 0) h.2
  | case10 last? last done c next rest noJoiner noSelector width some ih =>
      rw [List.forall_mem_cons] at h
      exact ih (before.cons h.1 _) h.2

theorem AllHold.take (blank : P ' ') {clusters : List Cluster} (h : AllHold P clusters)
    (cells : Nat) : ∀ c ∈ take cells clusters, P c := by
  fun_induction Cluster.take cells clusters with
  | case1 => simp
  | case2 => simp
  | case3 cells cluster rest fits ih =>
      rw [AllHold, List.forall_mem_cons] at h
      rw [List.forall_mem_append]
      exact ⟨h.1, ih h.2⟩
  | case4 cells cluster rest => simpa using blank

end Cluster

theorem forall_mem_blanks (blank : P ' ') (cells : Nat) : ∀ c ∈ blanks cells, P c := by
  intro c hc
  rw [List.eq_of_mem_replicate hc]
  exact blank

theorem forall_mem_cut (blank : P ' ') (dots : P ellipsis) (width : Nat) (h : ∀ c ∈ cs, P c) :
    ∀ c ∈ cut width cs, P c := by
  rw [cut]
  split
  · rw [List.forall_mem_append]
    have clusters : Cluster.AllHold P (Cluster.collect none [] cs) :=
      Cluster.AllHold.collect (fun _ h => nomatch h) h
    exact ⟨clusters.take blank _, by simpa using dots⟩
  · exact h

theorem forall_mem_padEnd (blank : P ' ') (width : Nat) (h : ∀ c ∈ cs, P c) :
    ∀ c ∈ padEnd width cs, P c := by
  rw [padEnd, List.forall_mem_append]
  exact ⟨h, forall_mem_blanks blank _⟩

theorem Alignment.forall_mem_fill (blank : P ' ') (dots : P ellipsis) (alignment : Alignment)
    (width : Nat) (h : ∀ c ∈ cs, P c) : ∀ c ∈ alignment.fill width cs, P c := by
  have trimmed := forall_mem_cut blank dots width (forall_mem_trimEnd h)
  cases alignment with
  | left => exact forall_mem_padEnd blank width (forall_mem_cut blank dots width h)
  | center =>
      refine forall_mem_padEnd blank width ?_
      rw [List.forall_mem_append]
      exact ⟨forall_mem_blanks blank _, trimmed⟩
  | right =>
      simp only [Alignment.fill, List.forall_mem_append]
      exact ⟨forall_mem_blanks blank _, trimmed⟩

/-- A line in cells holds its characters, blanks and dots. -/
theorem Alignment.forall_mem_setLine (blank : P ' ') (dots : P ellipsis) (alignment : Alignment)
    (width : Nat) (h : ∀ c ∈ cs, P c) :
    ∀ line ∈ alignment.setLine width cs, ∀ c ∈ line, P c := by
  intro line hline
  obtain ⟨broken, hbroken, rfl⟩ := List.mem_map.mp hline
  refine forall_mem_padEnd blank width (alignment.forall_mem_fill blank dots width fun c hc => ?_)
  exact forall_mem_breakLine width h broken hbroken c (List.mem_of_mem_take hc)

/-! ## Tables -/

/-- What every part and the separator have, the joined parts have, if it comes with appending. -/
theorem intercalate_induction {α : Type} {Q : List α → Prop} (nil : Q [])
    (append : ∀ {as bs : List α}, Q as → Q bs → Q (as ++ bs)) {separator : List α}
    (between : Q separator) {parts : List (List α)} (h : ∀ part ∈ parts, Q part) :
    Q (separator.intercalate parts) := by
  induction parts with
  | nil => exact nil
  | cons part rest ih =>
      rw [List.forall_mem_cons] at h
      cases rest with
      | nil =>
          rw [List.intercalate_singleton]
          exact h.1
      | cons next rest =>
          rw [List.intercalate_cons_cons]
          exact append (append h.1 between) (ih h.2)

theorem forall_mem_intercalate {separator : List Char} (between : ∀ c ∈ separator, P c)
    {parts : List (List Char)} (h : ∀ part ∈ parts, ∀ c ∈ part, P c) :
    ∀ c ∈ separator.intercalate parts, P c :=
  intercalate_induction (Q := fun cs => ∀ c ∈ cs, P c) nofun
    (fun front back => List.forall_mem_append.mpr ⟨front, back⟩) between h

end

theorem isWhole_blank : IsWhole ' ' := rfl

theorem isWhole_ellipsis : IsWhole ellipsis := rfl

theorem written_of_whole {cs : List Char} (h : ∀ c ∈ cs, IsWhole c) :
    written (String.ofList cs) = .ok (String.ofList cs) := by
  have none : Text.holdsHalf (String.ofList cs) = false := by
    rw [Text.holdsHalf, String.toList_ofList, List.any_eq_false]
    exact fun c hc => by simp [h c hc]
  rw [written, none]
  rfl

/-- A text that can be read to its end and that shows whole characters is printed. -/
theorem Markup.exists_print_of_settles {s : String} (h : Settles IsWhole s.toList {}) :
    ∃ shown, print s = .ok shown := by
  obtain ⟨marked, reads, applies⟩ := exists_read_of_settles h
  rw [print, line, reads, Result.ok_bind, applies.checkStyles_eq_ok, Result.ok_bind,
    Result.pure_eq_ok, Result.ok_bind, written_of_whole]
  · exact ⟨_, rfl⟩
  · rw [List.forall_mem_append]
    have lineEnd : ∀ c ∈ ['\n'], IsWhole c := by decide
    refine ⟨forall_mem_intercalate lineEnd ?_, lineEnd⟩
    exact Marked.forall_mem_lines isWhole_blank applies.shown

/-- The title and the cells of a column can be shown. -/
def SetColumn.Applies (column : SetColumn) : Prop :=
  ∀ marked ∈ column.title :: column.cells, marked.Applies IsWhole

/-- A row of cells that can be shown. -/
abbrev RowApplies (row : List (SetColumn × Marked)) : Prop :=
  ∀ pair ∈ row, pair.2.Applies IsWhole

namespace SetColumn

theorem exists_ofTexts {column : Column} {texts : List String}
    (title : Markup.Settles IsWhole column.title.toList {})
    (cells : ∀ text ∈ texts, Markup.Settles IsWhole text.toList {}) :
    ∃ set, ofTexts column texts = .ok set ∧ set.Applies := by
  obtain ⟨first, readFirst, applies⟩ := Markup.exists_read_of_settles title
  obtain ⟨others, readOthers, allApply⟩ :=
    Result.exists_mapM_eq_ok fun text htext => Markup.exists_read_of_settles (cells text htext)
  refine ⟨⟨column.alignment, greatest ((first :: others).map Marked.width), first, others⟩, ?_,
    List.forall_mem_cons.mpr ⟨applies, allApply⟩⟩
  rw [ofTexts, readFirst, Result.ok_bind, readOthers]
  rfl

theorem Applies.checkStyles_eq_ok {column : SetColumn} (h : column.Applies) :
    column.checkStyles = .ok () :=
  Result.forM_eq_ok_iff.mpr fun marked hmarked => (h marked hmarked).checkStyles_eq_ok _

theorem whole_of_mem_cellLines (column : SetColumn) {cell : Marked} (h : cell.Applies IsWhole) :
    ∀ line ∈ column.cellLines cell, ∀ c ∈ line, IsWhole c := by
  intro line hline
  obtain ⟨unset, hunset, set⟩ := List.mem_flatMap.mp hline
  refine Alignment.forall_mem_setLine isWhole_blank isWhole_ellipsis _ _ ?_ line set
  exact Marked.forall_mem_lines isWhole_blank h.shown unset hunset

end SetColumn

namespace Table

theorem whole_of_mem_rule {first fill join last : Char}
    (drawn : ∀ c ∈ [first, fill, join, last], IsWhole c) (columns : List SetColumn) :
    ∀ c ∈ rule first fill join last columns, IsWhole c := by
  have parts : ∀ part ∈ columns.map fun column => List.replicate (column.width + 2) fill,
      ∀ c ∈ part, IsWhole c := by
    intro part hpart c hc
    obtain ⟨column, -, rfl⟩ := List.mem_map.mp hpart
    rw [List.eq_of_mem_replicate hc]
    exact drawn fill (by simp)
  have joins : ∀ c ∈ [join], IsWhole c := by simpa using drawn join (by simp)
  have inner := forall_mem_intercalate joins parts
  rw [rule, List.forall_mem_append, List.forall_mem_cons]
  exact ⟨⟨drawn first (by simp), inner⟩, by simpa using drawn last (by simp)⟩

theorem whole_of_mem_rowLines {bar : Char} (drawn : IsWhole bar)
    {row : List (SetColumn × Marked)} (h : RowApplies row) :
    ∀ line ∈ rowLines bar row, ∀ c ∈ line, IsWhole c := by
  intro line hline
  obtain ⟨n, -, rfl⟩ := List.mem_map.mp hline
  have bars : ∀ c ∈ [bar], IsWhole c := by simpa using drawn
  rw [rowLine, List.forall_mem_append, List.forall_mem_cons]
  refine ⟨⟨drawn, forall_mem_intercalate bars fun part hpart => ?_⟩, bars⟩
  obtain ⟨⟨column, lines⟩, hset, rfl⟩ := List.mem_map.mp hpart
  obtain ⟨⟨column', cell⟩, hcell, same⟩ := List.mem_map.mp hset
  obtain ⟨rfl, rfl⟩ := Prod.mk.inj same
  have blank : ∀ c ∈ [' '], IsWhole c := by decide
  rw [List.forall_mem_append, List.forall_mem_cons]
  refine ⟨⟨rfl, ?_⟩, blank⟩
  intro c hc
  rw [List.getD_eq_getElem?_getD] at hc
  cases inside : (column'.cellLines cell)[n]? with
  | none =>
      rw [inside] at hc
      exact forall_mem_blanks isWhole_blank _ c hc
  | some line =>
      rw [inside] at hc
      exact column'.whole_of_mem_cellLines (h _ hcell) line (List.mem_of_getElem? inside) c hc

theorem exists_setColumns {table : Table}
    (titles : ∀ column ∈ table.columns, Markup.Settles IsWhole column.title.toList {})
    (cells : ∀ row ∈ table.rows, ∀ cell ∈ row, Markup.Settles IsWhole cell.toList {}) :
    ∃ columns, table.setColumns = .ok columns ∧ ∀ column ∈ columns, column.Applies := by
  refine Result.exists_mapM_eq_ok fun pair hpair => ?_
  obtain ⟨column, i⟩ := pair
  refine SetColumn.exists_ofTexts (titles column (List.fst_mem_of_mem_zipIdx hpair)) ?_
  intro text htext
  obtain ⟨row, hrow, rfl⟩ := List.mem_map.mp htext
  rw [List.getD_eq_getElem?_getD]
  cases inside : row[i]? with
  | none => exact Markup.settles_plain Markup.State.isSettled_empty (IsPlain.shows (by decide))
  | some cell => exact cells row hrow cell (List.mem_of_getElem? inside)

theorem whole_of_mem_lines (table : Table) {columns : List SetColumn}
    (h : ∀ column ∈ columns, column.Applies) :
    ∀ line ∈ table.lines columns, ∀ c ∈ line, IsWhole c := by
  have titles : RowApplies (titles columns) := by
    intro pair hpair
    obtain ⟨column, hcolumn, rfl⟩ := List.mem_map.mp hpair
    exact h column hcolumn _ List.mem_cons_self
  have row (n : Nat) : RowApplies (row columns n) := by
    intro pair hpair
    obtain ⟨column, hcolumn, cell⟩ := List.mem_filterMap.mp hpair
    obtain ⟨marked, inside, rfl⟩ := Option.map_eq_some_iff.mp cell
    exact h column hcolumn _ (List.mem_cons_of_mem _ (List.mem_of_getElem? inside))
  have bars : IsWhole '┃' ∧ IsWhole '│' := by decide
  intro line hline
  simp only [lines, List.mem_append, List.mem_singleton, List.mem_flatMap] at hline
  rcases hline with (((rfl | title) | rfl) | ⟨n, -, cells⟩) | rfl
  · exact whole_of_mem_rule (by decide) columns
  · exact whole_of_mem_rowLines bars.1 titles line title
  · exact whole_of_mem_rule (by decide) columns
  · exact whole_of_mem_rowLines bars.2 (row n) line cells
  · exact whole_of_mem_rule (by decide) columns

/-- A table is printed if its titles and cells can be. -/
theorem exists_render {table : Table}
    (titles : ∀ column ∈ table.columns, Markup.Settles IsWhole column.title.toList {})
    (cells : ∀ row ∈ table.rows, ∀ cell ∈ row, Markup.Settles IsWhole cell.toList {}) :
    ∃ shown, table.render = .ok shown := by
  obtain ⟨columns, set, applies⟩ := exists_setColumns titles cells
  have styles : columns.forM SetColumn.checkStyles = .ok () :=
    Result.forM_eq_ok_iff.mpr fun column hcolumn => (applies column hcolumn).checkStyles_eq_ok
  have whole : ∀ c ∈ (table.lines columns).flatMap (· ++ ['\n']), IsWhole c := by
    intro c hc
    obtain ⟨line, hline, inner⟩ := List.mem_flatMap.mp hc
    rcases List.mem_append.mp inner with drawn | lineEnd
    · exact whole_of_mem_lines table applies line hline c drawn
    · rw [List.mem_singleton.mp lineEnd]
      decide
  rw [render, set, Result.ok_bind, styles, Result.ok_bind, written_of_whole whole]
  exact ⟨_, rfl⟩

end Table

end Console

end ScriptVet
