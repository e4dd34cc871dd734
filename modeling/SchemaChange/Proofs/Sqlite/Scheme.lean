import Mathlib.Data.List.Basic
import SchemaChange.Proofs.Text.Casing
import SchemaChange.Proofs.Text.Lines
import SchemaChange.Sqlite.Connection

/-!
# Where the scheme of a URL ends

Two readers look at a URL that names a SQLite database. One finds the scheme, and takes `jdbc:` and the
scheme in any case of letters; the other finds the path, and takes away only what is in small letters.
So the path is what follows the scheme if both are written small. Otherwise a part of the beginning, or
all of it, stays and becomes the name of a file.

* `Sqlite.urlScheme?_eq_sqlite_iff`: the URLs whose scheme is `sqlite`;
* `Sqlite.path_of_isUrl`: the path of each of them;
* `Sqlite.path_follows_scheme`: where the two readers agree.
-/

namespace SchemaChange

namespace Text

variable {p s t : List Char}

theorem asciiLower_length (s : List Char) : (asciiLower s).length = s.length :=
  List.length_map _

theorem asciiLower_append (s t : List Char) : asciiLower (s ++ t) = asciiLower s ++ asciiLower t :=
  List.map_append

end Text

namespace ConnectionConfig

variable {url scheme rest : List Char}

/-- A scheme is all that stands before the first colon, and not nothing. -/
theorem schemeOf?_eq_some_iff :
    schemeOf? url = some scheme ↔ scheme ≠ [] ∧ (∀ c ∈ scheme, isSchemeChar c = true) ∧
      ∃ rest, url = scheme ++ ':' :: rest := by
  have hdrop : url.drop (url.takeWhile isSchemeChar).length = url.dropWhile isSchemeChar :=
    calc url.drop (url.takeWhile isSchemeChar).length
      _ = (url.takeWhile isSchemeChar ++ url.dropWhile isSchemeChar).drop
          (url.takeWhile isSchemeChar).length := by rw [List.takeWhile_append_dropWhile]
      _ = url.dropWhile isSchemeChar := List.drop_left
  rw [schemeOf?]
  constructor
  · intro h
    split at h
    · obtain ⟨hne, hcolon⟩ := Bool.and_eq_true_iff.1 ‹_›
      cases h
      rw [hdrop] at hcolon
      obtain ⟨rest, hrest⟩ := List.head?_eq_some_iff.1 (beq_iff_eq.1 hcolon)
      refine ⟨by simpa using hne, List.all_eq_true.1 List.all_takeWhile, rest, ?_⟩
      rw [← hrest, List.takeWhile_append_dropWhile]
    · cases h
  · rintro ⟨hne, hchars, rest, rfl⟩
    have htake : (scheme ++ ':' :: rest).takeWhile isSchemeChar = scheme := by
      rw [List.takeWhile_append_of_pos hchars, List.takeWhile_cons_of_neg (by decide), List.append_nil]
    rw [htake, List.drop_left]
    simp [hne]

theorem afterJdbc?_eq_some_iff :
    afterJdbc? url = some rest ↔ ∃ lead, Text.asciiLower lead = "jdbc:".toList ∧ url = lead ++ rest := by
  rw [afterJdbc?]
  constructor
  · intro h
    split at h
    · cases h
      exact ⟨url.take 5, ‹_›, (List.take_append_drop 5 url).symm⟩
    · cases h
  · rintro ⟨lead, hlead, rfl⟩
    have hlength : lead.length = 5 := by
      rw [← Text.asciiLower_length, hlead]
      rfl
    rw [← hlength, List.take_left, if_pos hlead, List.drop_left]

theorem isSchemeChar_toLower (c : Char) : isSchemeChar c.toLower = isSchemeChar c :=
  Text.apply_toLower isSchemeChar (by decide) c

end ConnectionConfig

namespace Sqlite

/-- The URL is `jdbc:` or nothing, the scheme `sqlite` and a colon, in any case of letters, and then the
    rest. -/
structure IsUrl (url lead scheme rest : String) : Prop where
  eq : url = lead ++ scheme ++ ":" ++ rest
  lead : lead = "" ∨ Text.sameName lead "jdbc:" = true
  scheme : Text.sameName scheme "sqlite" = true

/-- What stands before the path is in small letters. -/
def IsSmall (lead scheme : String) : Prop :=
  (lead = "" ∨ lead = "jdbc:") ∧ scheme = "sqlite"

instance (lead scheme : String) : Decidable (IsSmall lead scheme) :=
  inferInstanceAs (Decidable (_ ∧ _))

/-- The path that the rest of a URL names, which may begin with `//`. -/
def restPath (url rest : String) : Except DatabaseError String :=
  let path := withoutStart "//" rest.toList
  if path.isEmpty then
    .error (.configuration ("SQLite URL '" ++ url ++ "' does not name a database"))
  else .ok (String.ofList path)

namespace IsUrl

variable {url lead scheme rest : String}

theorem toList (h : IsUrl url lead scheme rest) :
    url.toList = lead.toList ++ (scheme.toList ++ ':' :: rest.toList) := by
  rw [h.eq]
  simp

/-- The scheme with what follows it, in small letters. -/
theorem lower (h : IsUrl url lead scheme rest) :
    Text.asciiLower (scheme.toList ++ ':' :: rest.toList) =
      "sqlite:".toList ++ Text.asciiLower rest.toList := by
  rw [Text.asciiLower_append, Text.sameName_iff.1 h.scheme]
  rfl

theorem schemeOf? (h : IsUrl url lead scheme rest) :
    ConnectionConfig.schemeOf? (scheme.toList ++ ':' :: rest.toList) = some scheme.toList := by
  have hlower := Text.sameName_iff.1 h.scheme
  refine ConnectionConfig.schemeOf?_eq_some_iff.2 ⟨?_, fun c hc => ?_, rest.toList, rfl⟩
  · intro hnil
    rw [hnil] at hlower
    cases hlower
  · have hsmall : c.toLower ∈ Text.asciiLower "sqlite".toList := by
      rw [← hlower]
      exact List.mem_map_of_mem hc
    have hall : ∀ c ∈ Text.asciiLower "sqlite".toList, ConnectionConfig.isSchemeChar c = true :=
      List.all_eq_true.1 rfl
    rw [← ConnectionConfig.isSchemeChar_toLower]
    exact hall _ hsmall

end IsUrl

/-- No URL is taken for one after `jdbc:` that begins with the scheme. -/
theorem IsUrl.afterJdbc?_eq_none {url scheme rest : String} (h : IsUrl url "" scheme rest) :
    ConnectionConfig.afterJdbc? url.toList = none := by
  refine Option.eq_none_iff_forall_ne_some.2 fun after hafter => ?_
  obtain ⟨lead, hlead, hurl⟩ := ConnectionConfig.afterJdbc?_eq_some_iff.1 hafter
  have hlower := h.lower
  rw [show scheme.toList ++ ':' :: rest.toList = url.toList from h.toList.symm, hurl,
    Text.asciiLower_append, hlead] at hlower
  cases hlower

theorem urlScheme?_eq_sqlite_iff {config : ConnectionConfig} :
    config.urlScheme? = some "sqlite" ↔ ∃ lead scheme rest, IsUrl config.url lead scheme rest := by
  rw [ConnectionConfig.urlScheme?]
  constructor
  · intro h
    obtain ⟨scheme, hscheme, hlower⟩ := Option.map_eq_some_iff.1 h
    have hsame : Text.sameName (String.ofList scheme) "sqlite" = true := by
      rw [Text.sameName_iff, String.toList_ofList,
        ← String.toList_ofList (l := Text.asciiLower scheme), hlower]
      rfl
    rw [Option.orElse_eq_orElse, Option.orElse_eq_or, Option.or_eq_some_iff] at hscheme
    rcases hscheme with hfirst | ⟨-, hsecond⟩
    · obtain ⟨after, hafter, hscheme⟩ := Option.bind_eq_some_iff.1 hfirst
      obtain ⟨lead, hlead, hurl⟩ := ConnectionConfig.afterJdbc?_eq_some_iff.1 hafter
      obtain ⟨-, -, rest, rfl⟩ := ConnectionConfig.schemeOf?_eq_some_iff.1 hscheme
      refine ⟨String.ofList lead, String.ofList scheme, String.ofList rest, ?_, .inr ?_, hsame⟩
      · exact String.toList_injective (by simp [hurl])
      · rw [Text.sameName_iff, String.toList_ofList, hlead]
        rfl
    · obtain ⟨-, -, rest, hurl⟩ := ConnectionConfig.schemeOf?_eq_some_iff.1 hsecond
      refine ⟨"", String.ofList scheme, String.ofList rest, ?_, .inl rfl, hsame⟩
      exact String.toList_injective (by simp [hurl])
  · rintro ⟨lead, scheme, rest, h⟩
    have hfound : ((ConnectionConfig.afterJdbc? config.url.toList).bind ConnectionConfig.schemeOf? <|>
        ConnectionConfig.schemeOf? config.url.toList) = some scheme.toList := by
      rcases h.lead with rfl | hlead
      · rw [h.afterJdbc?_eq_none, h.toList]
        exact h.schemeOf?
      · have hafter : ConnectionConfig.afterJdbc? config.url.toList =
            some (scheme.toList ++ ':' :: rest.toList) :=
          ConnectionConfig.afterJdbc?_eq_some_iff.2 ⟨lead.toList, Text.sameName_iff.1 hlead, h.toList⟩
        rw [hafter, Option.bind_some, h.schemeOf?]
        rfl
    rw [hfound, Option.map_some, Text.sameName_iff.1 h.scheme]
    rfl

/-! ## Paths -/

section Start

variable {start : String} {s t : List Char}

theorem withoutStart_append (start : String) (s : List Char) :
    withoutStart start (start.toList ++ s) = s := by
  rw [withoutStart, List.isPrefixOf?_eq_some_iff_append_eq.2 rfl]
  rfl

theorem withoutStart_of_not_isPrefix (h : ¬start.toList <+: s) : withoutStart start s = s := by
  have hnone : start.toList.isPrefixOf? s = none :=
    Option.eq_none_iff_forall_ne_some.2 fun t ht => h ⟨t, List.isPrefixOf?_eq_some_iff_append_eq.1 ht⟩
  rw [withoutStart, hnone]
  rfl

/-- A beginning is taken away in its own case of letters only. -/
theorem withoutStart_append_of_length (h : start.length = s.length) :
    withoutStart start (s ++ t) = if s = start.toList then t else s ++ t := by
  split
  · rename_i hs
    rw [hs, withoutStart_append]
  · rename_i hs
    refine withoutStart_of_not_isPrefix ?_
    rintro ⟨r, hr⟩
    exact hs (List.append_inj hr (by rw [String.length_toList, h])).1.symm

/-- Nor is it taken away where there are other letters. -/
theorem withoutStart_of_lower (h : ¬Text.asciiLower start.toList <+: Text.asciiLower s) :
    withoutStart start s = s :=
  withoutStart_of_not_isPrefix fun hstart => h (hstart.map _)

end Start

namespace IsUrl

variable {url lead scheme rest : String}

/-- What is left of the scheme and what follows it. -/
theorem withoutScheme (h : IsUrl url lead scheme rest) :
    withoutStart "sqlite:" (scheme.toList ++ ':' :: rest.toList) =
      if scheme = "sqlite" then rest.toList else scheme.toList ++ ':' :: rest.toList := by
  have hlength : "sqlite:".length = (scheme.toList ++ [':']).length := by
    rw [List.length_append, ← Text.asciiLower_length, Text.sameName_iff.1 h.scheme]
    rfl
  have hsmall : scheme.toList ++ [':'] = "sqlite:".toList ↔ scheme = "sqlite" := by
    rw [show "sqlite:".toList = "sqlite".toList ++ [':'] from rfl, List.append_cancel_right_eq,
      String.toList_inj]
  have hstart := withoutStart_append_of_length (t := rest.toList) hlength
  simpa only [hsmall, List.append_assoc, List.singleton_append] using hstart

/-- What is left of a whole URL after a look for the first of the two beginnings. -/
theorem withoutLead (h : IsUrl url lead scheme rest) :
    withoutStart "jdbc:" url.toList =
      if lead = "jdbc:" then scheme.toList ++ ':' :: rest.toList else url.toList := by
  rcases h.lead with rfl | hlead
  · refine withoutStart_of_lower ?_
    rw [h.toList, String.toList_empty, List.nil_append, h.lower]
    rintro ⟨_, ht⟩
    cases ht
  · have hlength : "jdbc:".length = lead.toList.length := by
      rw [← Text.asciiLower_length, Text.sameName_iff.1 hlead]
      rfl
    rw [h.toList, withoutStart_append_of_length hlength]
    simp only [String.toList_inj]

/-- A URL that begins with `jdbc:` in other letters than small ones is left as it is. -/
theorem withoutStart_url (h : IsUrl url lead scheme rest) (hlead : Text.sameName lead "jdbc:" = true) :
    withoutStart "sqlite:" url.toList = url.toList ∧ withoutStart "//" url.toList = url.toList := by
  constructor <;> refine withoutStart_of_lower ?_ <;>
    rw [h.toList, Text.asciiLower_append, Text.sameName_iff.1 hlead] <;> rintro ⟨_, ht⟩ <;> cases ht

theorem withoutSlashes (h : IsUrl url lead scheme rest) :
    withoutStart "//" (scheme.toList ++ ':' :: rest.toList) = scheme.toList ++ ':' :: rest.toList := by
  refine withoutStart_of_lower ?_
  rw [h.lower]
  rintro ⟨_, ht⟩
  cases ht

end IsUrl

/-- The path that a URL names is what follows `jdbc:` and the scheme if both are in small letters. If
    only `jdbc:` is, the scheme is part of the path, and otherwise all of the URL is the path. -/
theorem path_of_isUrl {url lead scheme rest : String} (h : IsUrl url lead scheme rest)
    (htrim : Text.trim url.toList = url.toList) :
    path url = if IsSmall lead scheme then restPath url rest
      else .ok (if lead = "jdbc:" then scheme ++ ":" ++ rest else url) := by
  have hne (s : List Char) : (scheme.toList ++ ':' :: s).isEmpty = false := by
    cases scheme.toList <;> rfl
  rw [path, htrim, h.withoutLead]
  by_cases hlead : lead = "" ∨ lead = "jdbc:"
  · have hleft : (if lead = "jdbc:" then scheme.toList ++ ':' :: rest.toList else url.toList) =
        scheme.toList ++ ':' :: rest.toList := by
      rcases hlead with rfl | rfl
      · exact h.toList
      · rfl
    rw [hleft, h.withoutScheme]
    by_cases hscheme : scheme = "sqlite"
    · have hsmall : IsSmall lead scheme := ⟨hlead, hscheme⟩
      rw [if_pos hscheme, if_pos hsmall, restPath]
      simp only [String.ofList_toList]
    · have hsmall : ¬IsSmall lead scheme := fun hsmall => hscheme hsmall.2
      rw [if_neg hscheme, if_neg hsmall, h.withoutSlashes, hne, if_neg Bool.false_ne_true]
      refine congrArg Except.ok (String.toList_injective ?_)
      rw [String.toList_ofList, ← hleft]
      split <;> simp
  · have hjdbc : lead ≠ "jdbc:" := fun hjdbc => hlead (.inr hjdbc)
    have hsmall : ¬IsSmall lead scheme := fun hsmall => hlead hsmall.1
    obtain ⟨hscheme, hslashes⟩ :=
      h.withoutStart_url (h.lead.resolve_left fun hnil => hlead (.inl hnil))
    have hurl : url.toList.isEmpty = false := by
      rw [h.toList, ← List.append_assoc, List.isEmpty_eq_false_iff]
      simp
    rw [if_neg hjdbc, if_neg hsmall, if_neg hjdbc, hscheme, hslashes, hurl,
      if_neg Bool.false_ne_true, String.ofList_toList]

theorem length_withoutStart_le (start : String) (s : List Char) :
    (withoutStart start s).length ≤ s.length := by
  rw [withoutStart]
  cases hstart : start.toList.isPrefixOf? s with
  | none => exact Nat.le_refl _
  | some t =>
    rw [← List.isPrefixOf?_eq_some_iff_append_eq.1 hstart, List.length_append]
    exact Nat.le_add_left _ _

/-- The rest of a URL names no longer path than itself. -/
theorem restPath_ne_ok {url rest path : String} (h : rest.length < path.length) :
    restPath url rest ≠ .ok path := by
  intro heq
  rw [restPath] at heq
  split at heq
  · cases heq
  · cases heq
    have hle := length_withoutStart_le "//" rest.toList
    rw [String.length_ofList] at h
    exact absurd h (Nat.not_lt.2 hle)

/-- The URLs whose scheme is `sqlite` are those of `jdbc:` or nothing, the scheme and its colon in any
    case of letters, and the path of such a URL is the one that follows exactly if these are in small
    letters. -/
theorem path_follows_scheme (config : ConnectionConfig) :
    (config.urlScheme? = some "sqlite" ↔ ∃ lead scheme rest, IsUrl config.url lead scheme rest) ∧
    ∀ lead scheme rest, IsUrl config.url lead scheme rest →
      Text.trim config.url.toList = config.url.toList →
        (path config.url = if IsSmall lead scheme then restPath config.url rest
          else .ok (if lead = "jdbc:" then scheme ++ ":" ++ rest else config.url)) ∧
        (path config.url = restPath config.url rest ↔ IsSmall lead scheme) := by
  refine ⟨urlScheme?_eq_sqlite_iff, fun lead scheme rest h htrim => ?_⟩
  have hpath := path_of_isUrl h htrim
  refine ⟨hpath, fun heq => ?_, fun hsmall => by rw [hpath, if_pos hsmall]⟩
  by_contra hsmall
  -- What is left of the beginning makes the path longer than the rest.
  have hlonger : rest.length < (if lead = "jdbc:" then scheme ++ ":" ++ rest else config.url).length := by
    have hcolon : ":".length = 1 := rfl
    rw [h.eq]
    split <;> simp only [String.length_append, hcolon] <;> omega
  rw [heq, if_neg hsmall] at hpath
  exact restPath_ne_ok hlonger hpath

/-- A file after both beginnings, and two slashes. -/
theorem path_follows_scheme_file :
    let config : ConnectionConfig := { driver := "sqlite", url := "jdbc:sqlite://a.db" }
    IsUrl config.url "jdbc:" "sqlite" "//a.db" ∧ Text.trim config.url.toList = config.url.toList ∧
      config.urlScheme? = some "sqlite" ∧ path config.url = .ok "a.db" ∧
      (path config.url = restPath config.url "//a.db" ↔ IsSmall "jdbc:" "sqlite") := by
  intro config
  have hurl : IsUrl config.url "jdbc:" "sqlite" "//a.db" := ⟨rfl, .inr rfl, rfl⟩
  have htrim : Text.trim config.url.toList = config.url.toList := by decide
  obtain ⟨hscheme, hpaths⟩ := path_follows_scheme config
  obtain ⟨hpath, hagree⟩ := hpaths _ _ _ hurl htrim
  exact ⟨hurl, htrim, hscheme.2 ⟨_, _, _, hurl⟩, hpath, hagree⟩

/-- The same URL in small and in capital letters: the scheme is the same, but the one opens a database in
    memory and the other a file. -/
theorem path_differs_by_case :
    let small : ConnectionConfig := { driver := "sqlite", url := "sqlite::memory:" }
    let capital : ConnectionConfig := { driver := "sqlite", url := "SQLITE::memory:" }
    (small.urlScheme? = some "sqlite" ∧ path small.url = .ok ":memory:") ∧
      capital.urlScheme? = some "sqlite" ∧ path capital.url = .ok "SQLITE::memory:" := by
  refine ⟨⟨?_, ?_⟩, ?_, ?_⟩ <;> decide

end Sqlite

end SchemaChange
