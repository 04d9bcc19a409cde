-- Two readers of one path: the router compares it segment by segment, the scope looks for
-- the text behind the first segment that is `organizations`. Wherever the router finds the
-- members of an organization, the scope has found that organization.

import Mathlib.Data.List.TakeWhile
import TenantAuth.Api.Router
import TenantAuth.Proofs.Text.Split

namespace TenantAuth.Api

variable {path : String}

/-! ## Segments -/

/-- A path as its segments, with a slash between any two. -/
structure Segments (path : String) (segments : List String) : Prop where
  joined : path.toList = ['/'].intercalate (segments.map String.toList)
  nonempty : segments ≠ []
  whole : ∀ s ∈ segments, '/' ∉ s.toList

theorem segments_iff {segments : List String} :
    Segments path segments ↔ (Text.splitOn '/' path.toList).map String.ofList = segments := by
  constructor
  · rintro ⟨hjoined, hne, hwhole⟩
    rw [hjoined, Text.splitOn_intercalate (by simpa using hwhole) (by simpa using hne)]
    simp
  · rintro rfl
    refine ⟨?_, ?_, ?_⟩
    · simp [Text.intercalate_splitOn]
    · rw [Ne, List.map_eq_nil_iff, Text.splitOn_eq]
      exact List.splitOn_ne_nil _ _
    · intro s hs
      obtain ⟨piece, hpiece, rfl⟩ := List.mem_map.mp hs
      rw [String.toList_ofList]
      exact Text.notMem_of_mem_splitOn hpiece

theorem Segments.path_unique {path' : String} {segments : List String} (h : Segments path segments)
    (h' : Segments path' segments) : path = path' :=
  String.toList_injective (h.joined.trans h'.joined.symm)

/-- The segments of the path of the members of an organization. -/
theorem segments_members {id : String} (h : '/' ∉ id.toList) :
    Segments ("/organizations/" ++ id ++ "/users") ["", "organizations", id, "users"] where
  joined := by simp [List.intercalate]
  nonempty := by simp
  whole := by
    simp only [List.forall_mem_cons]
    exact ⟨by decide, by decide, h, by decide, by simp⟩

/-! ## The organization of a path -/

/-- The path names an organization: this is the first segment that is not empty behind the
first one that is `organizations`. -/
def NamesOrganization (path segment : String) : Prop :=
  ∃ before gaps after, Segments path (before ++ "organizations" :: (gaps ++ segment :: after)) ∧
    "organizations" ∉ before ∧ (∀ g ∈ gaps, g = "") ∧ segment ≠ ""

section

variable {α : Type} [DecidableEq α] {keep : α → Bool} {mark x : α} {l : List α}

/-- What is behind a mark is the same, whether the list is thinned before or after. -/
theorem tail_dropWhile_filter (hmark : keep mark = true) (l : List α) :
    ((l.filter keep).dropWhile (· ≠ mark)).drop 1 =
      ((l.dropWhile (· ≠ mark)).drop 1).filter keep := by
  induction l with
  | nil => rfl
  | cons a l ih =>
    by_cases ha : a = mark
    · simp [ha, hmark]
    · by_cases hkeep : keep a = true
      · simpa [hkeep, ha] using ih
      · simpa [hkeep, ha] using ih

theorem dropWhile_append_mark {before : List α} (h : mark ∉ before) (rest : List α) :
    (before ++ mark :: rest).dropWhile (· ≠ mark) = mark :: rest := by
  rw [List.dropWhile_append_of_pos fun a ha => by simpa using ne_of_mem_of_not_mem ha h]
  simp

/-- The first element that is kept behind the first mark. -/
theorem head?_filter_behind_eq_some_iff :
    (((l.dropWhile (· ≠ mark)).drop 1).filter keep).head? = some x ↔
      ∃ before gaps after, l = before ++ mark :: (gaps ++ x :: after) ∧ mark ∉ before ∧
        (∀ g ∈ gaps, keep g = false) ∧ keep x = true := by
  rw [List.head?_filter]
  constructor
  · intro hfind
    by_cases hmem : mark ∈ l
    · obtain ⟨before, rest, rfl, hbefore⟩ := List.eq_append_cons_of_mem hmem
      rw [dropWhile_append_mark hbefore, List.drop_one, List.tail_cons,
        List.find?_eq_some_iff_append] at hfind
      obtain ⟨hx, gaps, after, rfl, hgaps⟩ := hfind
      exact ⟨before, gaps, after, rfl, hbefore, by simpa using hgaps, hx⟩
    · have hnone : l.dropWhile (· ≠ mark) = [] := by
        rw [List.dropWhile_eq_nil_iff]
        intro a ha
        simpa using ne_of_mem_of_not_mem ha hmem
      rw [hnone] at hfind
      cases hfind
  · rintro ⟨before, gaps, after, rfl, hbefore, hgaps, hx⟩
    rw [dropWhile_append_mark hbefore, List.drop_one, List.tail_cons,
      List.find?_eq_some_iff_append]
    exact ⟨hx, gaps, after, rfl, by simpa using hgaps⟩

end

theorem organizationSegment?_eq_some_iff {segment : String} :
    organizationSegment? path = some segment ↔ NamesOrganization path segment := by
  have hthinned : ((Text.splitOn '/' path.toList).filter fun s => !s.isEmpty).map String.ofList =
      ((Text.splitOn '/' path.toList).map String.ofList).filter (· ≠ "") := by
    rw [List.filter_map]
    congr 2
    funext piece
    rw [Bool.eq_iff_iff]
    simp
  unfold organizationSegment? NamesOrganization
  simp only [hthinned, segments_iff]
  rw [tail_dropWhile_filter (by decide), head?_filter_behind_eq_some_iff]
  simp

/-! ## The routes of organizations -/

theorem ofPath?_eq_members_iff {id : String} :
    Route.ofPath? path = some (.members id) ↔
      path = "/organizations/" ++ id ++ "/users" ∧ '/' ∉ id.toList := by
  constructor
  · intro h
    unfold Route.ofPath? at h
    split at h
    case h_8 id' hsegments =>
      obtain rfl : id' = id := by simpa using h
      have hsegments := segments_iff.mpr hsegments
      have hid : '/' ∉ id'.toList := hsegments.whole id' (by simp)
      exact ⟨hsegments.path_unique (segments_members hid), hid⟩
    all_goals simp at h
  · rintro ⟨rfl, hid⟩
    unfold Route.ofPath?
    rw [segments_iff.mp (segments_members hid)]
    simp

theorem ofPath?_eq_organizations_iff :
    Route.ofPath? path = some .organizations ↔ path = "/organizations" := by
  constructor
  · intro h
    unfold Route.ofPath? at h
    split at h
    case h_7 hsegments =>
      have horganizations : Segments "/organizations" ["", "organizations"] :=
        segments_iff.mpr (by decide)
      exact (segments_iff.mpr hsegments).path_unique horganizations
    all_goals simp at h
  · rintro rfl
    decide

/-- What the router takes for the id of an organization is what the scope reads. An empty
segment does not count there, so the one behind it is read in its place. -/
theorem organizationSegment?_members {id : String} (h : Route.ofPath? path = some (.members id)) :
    organizationSegment? path = some (if id = "" then "users" else id) := by
  obtain ⟨rfl, hid⟩ := ofPath?_eq_members_iff.mp h
  rw [organizationSegment?_eq_some_iff]
  have hsegments := segments_members hid
  by_cases hempty : id = ""
  · subst hempty
    exact ⟨[""], [""], [], hsegments, by simp, by simp, by simp⟩
  · rw [if_neg hempty]
    exact ⟨[""], [], ["users"], hsegments, by simp, by simp, hempty⟩

end TenantAuth.Api
