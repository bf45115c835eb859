import Mathlib.Data.List.Perm.Basic
import EntityGen.Resource

/-! # Resolution of sources

What a source resolves to depends on the resources that fit it by path or by name, and not on the
others or on any order. A second resource at the path of the one that was found is never passed over
in silence.
-/

namespace EntityGen.Target

variable {t : Target} {resources others before after : List Resource} {r twin : Resource}

/-- Whether a resource can have a part in the resolution. -/
def concerns (t : Target) (r : Resource) : Bool :=
  r.endsWith t.source || r.hasFileName t.source

/-- Two lists of resources lead to the same resource, both to none, or to candidates that fit in the
same way, each in the order of its list. -/
inductive SameResolution (t : Target) (resources others : List Resource) :
    Except GenerationError Resource → Except GenerationError Resource → Prop
  | found (r : Resource) : SameResolution t resources others (.ok r) (.ok r)
  | missing : SameResolution t resources others
      (.error (.missingSource t.source t.className)) (.error (.missingSource t.source t.className))
  | ambiguous (fits : Resource → Bool) :
      (resources.filter fits).Perm (others.filter fits) →
      SameResolution t resources others
        (.error (.ambiguousSource t.source t.className ((resources.filter fits).map (·.path))))
        (.error (.ambiguousSource t.source t.className ((others.filter fits).map (·.path))))

/-! ## Candidates -/

theorem filter_concerns {fits : Resource → Bool} (hf : ∀ r, fits r = true → t.concerns r = true)
    (resources : List Resource) :
    (resources.filter t.concerns).filter fits = resources.filter fits := by
  rw [List.filter_filter]
  refine List.filter_congr fun r _ => ?_
  rw [Bool.and_eq_left_iff_imp]
  exact hf r

theorem concerns_of_endsWith (r : Resource) (h : r.endsWith t.source = true) :
    t.concerns r = true := by
  rw [concerns, h, Bool.true_or]

theorem concerns_of_hasFileName (r : Resource) (h : r.hasFileName t.source = true) :
    t.concerns r = true := by
  rw [concerns, h, Bool.or_true]

/-- The step that decides, and so what has to fit, is the same for both lists. -/
theorem exists_fits (h : (resources.filter t.concerns).Perm (others.filter t.concerns)) :
    ∃ fits : Resource → Bool, (∀ r, fits r = true → t.concerns r = true) ∧
      t.candidates resources = resources.filter fits ∧
      t.candidates others = others.filter fits := by
  have hpaths : (t.pathMatches resources).Perm (t.pathMatches others) := by
    have hp := h.filter (·.endsWith t.source)
    rwa [filter_concerns concerns_of_endsWith, filter_concerns concerns_of_endsWith] at hp
  by_cases he : (t.pathMatches resources).isEmpty
  · have ho : (t.pathMatches others).isEmpty := by
      rw [List.isEmpty_iff] at he ⊢
      rw [he] at hpaths
      exact List.nil_perm.mp hpaths
    exact ⟨(·.hasFileName t.source), concerns_of_hasFileName, if_pos he, if_pos ho⟩
  · have ho : ¬ (t.pathMatches others).isEmpty := by
      rw [List.isEmpty_iff] at he ⊢
      intro ho
      rw [ho] at hpaths
      exact he (List.perm_nil.mp hpaths)
    exact ⟨(·.endsWith t.source), concerns_of_endsWith, if_neg he, if_neg ho⟩

theorem resolve_eq_ok_iff : t.resolve resources = .ok r ↔ t.candidates resources = [r] := by
  unfold resolve
  split
  · next s hs => rw [hs, Except.ok.injEq, List.singleton_inj]
  · next hn => simp [hn]
  · next hs _ => exact ⟨nofun, fun h => absurd h (hs r)⟩

theorem resolve_of_two (h : (t.candidates resources).map (·.path) = [r.path, r.path]) :
    t.resolve resources = .error (.ambiguousSource t.source t.className [r.path, r.path]) := by
  unfold resolve
  split
  · next s hs => simp [hs] at h
  · next hn => simp [hn] at h
  · rw [h]

theorem sameResolution_of_perm {fits : Resource → Bool}
    (hr : t.candidates resources = resources.filter fits)
    (ho : t.candidates others = others.filter fits)
    (h : (resources.filter fits).Perm (others.filter fits)) :
    SameResolution t resources others (t.resolve resources) (t.resolve others) := by
  unfold resolve
  rw [hr, ho]
  rcases hs : resources.filter fits with _ | ⟨first, _ | ⟨second, rest⟩⟩
  · rw [hs] at h
    rw [List.nil_perm.mp h]
    exact .missing
  · rw [hs] at h
    rw [← List.singleton_perm.mp h]
    exact .found first
  · rcases hs' : others.filter fits with _ | ⟨first', _ | ⟨second', rest'⟩⟩
    · rw [hs, hs'] at h
      cases h.length_eq
    · rw [hs, hs'] at h
      cases h.length_eq
    · dsimp only
      rw [← hs, ← hs']
      exact .ambiguous fits h

/-! ## A second resource at one path -/

theorem endsWith_congr (h : twin.path = r.path) (source : String) :
    twin.endsWith source = r.endsWith source := by
  rw [Resource.endsWith, Resource.endsWith, h]

theorem hasFileName_congr (h : twin.path = r.path) (source : String) :
    twin.hasFileName source = r.hasFileName source := by
  rw [Resource.hasFileName, Resource.hasFileName, h]

theorem map_path_of_append {xs ys : List Resource} (h : xs ++ ys = [r]) (hp : twin.path = r.path) :
    (xs ++ twin :: ys).map (·.path) = [r.path, r.path] := by
  rcases List.append_eq_singleton_iff.mp h with ⟨rfl, rfl⟩ | ⟨rfl, rfl⟩
  · simp [hp]
  · simp [hp]

theorem map_path_filter_of_twin {fits : Resource → Bool}
    (h : (before ++ after).filter fits = [r]) (ht : fits twin = true) (hp : twin.path = r.path) :
    ((before ++ twin :: after).filter fits).map (·.path) = [r.path, r.path] := by
  rw [List.filter_append] at h
  rw [List.filter_append, List.filter_cons_of_pos ht]
  exact map_path_of_append h hp

theorem candidates_of_twin (h : t.candidates (before ++ after) = [r]) (hp : twin.path = r.path) :
    (t.candidates (before ++ twin :: after)).map (·.path) = [r.path, r.path] := by
  have hmem : ∀ fits : Resource → Bool, (before ++ after).filter fits = [r] →
      r ∈ before ++ after ∧ fits r = true := by
    intro fits hf
    exact List.mem_filter.mp (hf ▸ List.mem_singleton_self r)
  unfold candidates at h ⊢
  split at h
  · next he =>
    obtain ⟨hr, hname⟩ := hmem _ h
    have hpath : t.pathMatches (before ++ twin :: after) = [] := by
      have hold := List.filter_eq_nil_iff.mp (List.isEmpty_iff.mp he)
      refine List.filter_eq_nil_iff.mpr fun s hs => ?_
      rcases List.mem_append.mp hs with hb | ha
      · exact hold s (List.mem_append_left _ hb)
      · rcases List.mem_cons.mp ha with rfl | ha
        · rw [endsWith_congr hp]
          exact hold r hr
        · exact hold s (List.mem_append_right _ ha)
    rw [if_pos (List.isEmpty_iff.mpr hpath)]
    exact map_path_filter_of_twin h ((hasFileName_congr hp _).trans hname) hp
  · obtain ⟨-, hpath⟩ := hmem _ h
    have htwin : twin.endsWith t.source = true := (endsWith_congr hp _).trans hpath
    have hne : ¬ (t.pathMatches (before ++ twin :: after)).isEmpty = true := by
      rw [List.isEmpty_iff]
      refine List.ne_nil_of_mem (a := twin) (List.mem_filter.mpr ⟨?_, htwin⟩)
      exact List.mem_append_right _ List.mem_cons_self
    rw [if_neg hne]
    exact map_path_filter_of_twin h htwin hp

/-- Only the resources that concern a target decide, in whatever order they come, and of two at the
path of the resource that was found neither is chosen. -/
theorem resolve_stable (h : (resources.filter t.concerns).Perm (others.filter t.concerns)) :
    SameResolution t resources others (t.resolve resources) (t.resolve others) ∧
      (resources.filter t.concerns = others.filter t.concerns →
        t.resolve resources = t.resolve others) ∧
      ∀ r before after twin, t.resolve resources = .ok r → resources = before ++ after →
        twin.path = r.path → t.resolve (before ++ twin :: after) =
          .error (.ambiguousSource t.source t.className [r.path, r.path]) := by
  obtain ⟨fits, hf, hr, ho⟩ := exists_fits h
  refine ⟨sameResolution_of_perm hr ho ?_, fun he => ?_, fun r before after twin hok hs hp => ?_⟩
  · have hp := h.filter fits
    rwa [filter_concerns hf, filter_concerns hf] at hp
  · have hc : t.candidates resources = t.candidates others := by
      rw [hr, ho, ← filter_concerns hf resources, he, filter_concerns hf]
    rw [resolve, resolve, hc]
  · subst hs
    exact resolve_of_two (candidates_of_twin (resolve_eq_ok_iff.mp hok) hp)

/-- Asks for a schema in a directory that no resource is in, so the file name decides. -/
def blogContext : Target := ⟨"BlogContext", "Blog", "schema/Blog.json"⟩

theorem blogContext_resolve_stable :
    let db : Resource := ⟨"db/blog.json", "1"⟩
    let old : Resource := ⟨"old/BLOG.json", "2"⟩
    let shop : Resource := ⟨"db/shop.json", "3"⟩
    ([db, old, shop].filter blogContext.concerns).Perm ([old, db].filter blogContext.concerns) ∧
      SameResolution blogContext [db, old, shop] [old, db]
        (blogContext.resolve [db, old, shop]) (blogContext.resolve [old, db]) ∧
      blogContext.resolve [db, shop] = .ok db ∧
      blogContext.resolve [db, ⟨"db/blog.json", "4"⟩, shop] =
        .error (.ambiguousSource "schema/Blog.json" "BlogContext"
          ["db/blog.json", "db/blog.json"]) := by
  intro db old shop
  have hperm : ([db, old, shop].filter blogContext.concerns).Perm
      ([old, db].filter blogContext.concerns) := by decide
  have hok : blogContext.resolve [db, shop] = .ok db := resolve_eq_ok_iff.mpr (by decide)
  refine ⟨hperm, (resolve_stable hperm).1, hok, ?_⟩
  exact (resolve_stable (List.Perm.refl _)).2.2 db [db] [shop] ⟨"db/blog.json", "4"⟩ hok rfl rfl

end EntityGen.Target
