import Flowline.Builtin.Texts
import Flowline.Proofs.Text.Lowercase
import Mathlib.Data.List.Chain

/-!
The form of slugs. The loop of `slugList` keeps its result free of a leading hyphen and of two
hyphens in a row, the cut at the end takes away a trailing one, and what has this form is its own
slug.
-/

namespace Flowline.Text

/-- Alphanumeric characters with single hyphens between them. -/
structure SlugForm (slug : List Char) : Prop where
  made : ∀ c ∈ slug, isAlphanumeric c = true ∨ c = '-'
  opened : slug.head? ≠ some '-'
  closed : slug.getLast? ≠ some '-'
  apart : slug.IsChain fun c next => ¬(c = '-' ∧ next = '-')

theorem isAlphanumeric_hyphen : isAlphanumeric '-' = false := by decide

theorem ne_hyphen_of_isAlphanumeric {c : Char} (alphanumeric : isAlphanumeric c = true) :
    c ≠ '-' := by
  rintro rfl
  rw [isAlphanumeric_hyphen] at alphanumeric
  cases alphanumeric

theorem isSettled_hyphen : isSettled '-' = true := by decide +kernel

section Loop

/-- What the loop has gathered, the last character first. -/
structure Gathering (slug : List Char) : Prop where
  made : ∀ c ∈ slug, isAlphanumeric c = true ∨ c = '-'
  opened : slug.getLast? ≠ some '-'
  apart : slug.IsChain fun next c => ¬(next = '-' ∧ c = '-')

theorem addToSlug_of_isAlphanumeric {slug : List Char} {c : Char}
    (alphanumeric : isAlphanumeric c = true) : addToSlug slug c = c :: slug := by
  simp only [addToSlug, alphanumeric, if_true]

theorem addToSlug_cases {c : Char} (other : isAlphanumeric c = false) (slug : List Char) :
    (addToSlug slug c = slug ∧ (slug = [] ∨ slug.head? = some '-')) ∨
      addToSlug slug c = '-' :: slug ∧ slug ≠ [] ∧ slug.head? ≠ some '-' := by
  cases slug with
  | nil => simp [addToSlug, other]
  | cons last rest => by_cases hyphen : last = '-' <;> simp [addToSlug, other, hyphen]

theorem Gathering.add {slug : List Char} (gathered : Gathering slug) (c : Char) :
    Gathering (addToSlug slug c) := by
  by_cases alphanumeric : isAlphanumeric c = true
  · have other := ne_hyphen_of_isAlphanumeric alphanumeric
    rw [addToSlug_of_isAlphanumeric alphanumeric]
    refine ⟨List.forall_mem_cons.mpr ⟨.inl alphanumeric, gathered.made⟩, ?_, ?_⟩
    · cases slug with
      | nil => simpa using other
      | cons last rest => exact gathered.opened
    · exact List.isChain_cons.mpr ⟨fun _ _ both => other both.1, gathered.apart⟩
  · rcases addToSlug_cases (Bool.not_eq_true _ ▸ alphanumeric) slug with
      ⟨same, _⟩ | ⟨added, filled, unmarked⟩
    · rw [same]
      exact gathered
    · rw [added]
      refine ⟨List.forall_mem_cons.mpr ⟨.inr rfl, gathered.made⟩, ?_, ?_⟩
      · obtain ⟨last, rest, rfl⟩ := List.exists_cons_of_ne_nil filled
        exact gathered.opened
      · refine List.isChain_cons.mpr ⟨fun last first both => unmarked ?_, gathered.apart⟩
        rw [← both.2]
        exact first

theorem Gathering.foldl {slug : List Char} (gathered : Gathering slug) (chars : List Char) :
    Gathering (chars.foldl addToSlug slug) := by
  induction chars generalizing slug with
  | nil => exact gathered
  | cons c rest ih => exact ih (gathered.add c)

theorem gathering_nil : Gathering [] := ⟨List.forall_mem_nil _, by simp, .nil⟩

/-- The loop only puts characters in front of what it has gathered, and of the alphanumeric ones
just those that it reads. -/
theorem exists_foldl_addToSlug (chars slug : List Char) :
    ∃ front, chars.foldl addToSlug slug = front ++ slug ∧
      front.reverse.filter isAlphanumeric = chars.filter isAlphanumeric := by
  induction chars generalizing slug with
  | nil => exact ⟨[], rfl, rfl⟩
  | cons c rest ih =>
      obtain ⟨front, gathered, letters⟩ := ih (addToSlug slug c)
      rw [List.foldl_cons, gathered]
      by_cases alphanumeric : isAlphanumeric c = true
      · refine ⟨front ++ [c], ?_, ?_⟩
        · rw [addToSlug_of_isAlphanumeric alphanumeric, List.append_assoc, List.singleton_append]
        · simp [alphanumeric, letters]
      · rcases addToSlug_cases (Bool.not_eq_true _ ▸ alphanumeric) slug with ⟨same, _⟩ | ⟨added, _⟩
        · exact ⟨front, by rw [same], by simp [alphanumeric, letters]⟩
        · refine ⟨front ++ ['-'], ?_, ?_⟩
          · rw [added, List.append_assoc, List.singleton_append]
          · simp [alphanumeric, letters, isAlphanumeric_hyphen]

/-- Behind an alphanumeric character all that is not one amounts to a single hyphen. -/
theorem foldl_addToSlug_gap {a : Char} (alphanumeric : isAlphanumeric a = true) {gap : List Char}
    (others : ∀ c ∈ gap, isAlphanumeric c = false) (slug : List Char) :
    gap.foldl addToSlug (a :: slug) = (if gap = [] then [] else ['-']) ++ a :: slug := by
  have marked : ∀ {rest : List Char}, (∀ c ∈ rest, isAlphanumeric c = false) →
      rest.foldl addToSlug ('-' :: a :: slug) = '-' :: a :: slug := by
    intro rest others
    induction rest with
    | nil => rfl
    | cons c rest ih =>
        rw [List.forall_mem_cons] at others
        simpa [addToSlug, others.1] using ih others.2
  cases gap with
  | nil => rfl
  | cons c rest =>
      rw [List.forall_mem_cons] at others
      have first : addToSlug (a :: slug) c = '-' :: a :: slug := by
        simp [addToSlug, others.1, ne_hyphen_of_isAlphanumeric alphanumeric]
      rw [List.foldl_cons, first, marked others.2]
      rfl

/-- What has the form of a slug passes through the loop unchanged. -/
theorem foldl_addToSlug_of_slugForm {gathered slug : List Char}
    (form : SlugForm (gathered.reverse ++ slug)) :
    slug.foldl addToSlug gathered = slug.reverse ++ gathered := by
  induction slug generalizing gathered with
  | nil => rfl
  | cons c rest ih =>
      have added : addToSlug gathered c = c :: gathered := by
        rcases form.made c (by simp) with alphanumeric | rfl
        · exact addToSlug_of_isAlphanumeric alphanumeric
        · cases gathered with
          | nil => exact absurd rfl form.opened
          | cons last earlier =>
              have unmarked : last ≠ '-' := by
                rintro rfl
                have apart := form.apart
                rw [List.reverse_cons, List.append_assoc, List.singleton_append,
                  List.isChain_append_cons_cons] at apart
                exact apart.2.1 ⟨rfl, rfl⟩
              simp [addToSlug, isAlphanumeric_hyphen, unmarked]
      rw [List.foldl_cons, added, ih]
      · simp
      · simpa using form

end Loop

section Cut

/-- A slug as it is read, out of what the loop has gathered. -/
def cut (slug : List Char) : List Char := (slug.dropWhile fun c => c == '-').reverse

theorem filter_cut (slug : List Char) :
    (cut slug).filter isAlphanumeric = slug.reverse.filter isAlphanumeric := by
  rw [cut, List.filter_reverse, List.filter_reverse]
  congr 1
  induction slug with
  | nil => rfl
  | cons c rest ih =>
      by_cases hyphen : c = '-'
      · simpa [hyphen, isAlphanumeric_hyphen] using ih
      · simp [hyphen]

theorem cut_append {c : Char} (other : c ≠ '-') (front rest : List Char) :
    cut (front ++ c :: rest) = rest.reverse ++ c :: cut front := by
  have kept : (c :: rest).dropWhile (fun c => c == '-') = c :: rest := by simp [other]
  rw [cut, List.dropWhile_append, kept]
  split
  · have none : front.dropWhile (fun c => c == '-') = [] := List.isEmpty_iff.mp ‹_›
    rw [cut, none, List.reverse_nil, List.reverse_cons]
  · rw [cut, List.reverse_append, List.reverse_cons, List.append_assoc, List.singleton_append]

theorem cut_eq_reverse {slug : List Char} (unmarked : slug.head? ≠ some '-') :
    cut slug = slug.reverse := by
  cases slug with
  | nil => rfl
  | cons last rest =>
      have other : last ≠ '-' := by simpa using unmarked
      simp [cut, other]

theorem Gathering.cut {slug : List Char} (gathered : Gathering slug) : SlugForm (cut slug) := by
  have suffix := List.dropWhile_suffix (l := slug) fun c => c == '-'
  refine ⟨fun c listed => gathered.made c (suffix.subset (List.mem_reverse.mp listed)), ?_, ?_, ?_⟩
  · rw [Text.cut, List.head?_reverse]
    intro marked
    obtain ⟨dropped, whole⟩ := suffix
    refine gathered.opened ?_
    rw [← whole, List.getLast?_append, marked]
    rfl
  · rw [Text.cut, List.getLast?_reverse]
    intro marked
    have := List.head?_dropWhile_not (fun c => c == '-') slug
    rw [marked] at this
    simp at this
  · rw [Text.cut, List.isChain_reverse]
    exact (gathered.apart.suffix suffix).imp fun _ _ apart both => apart ⟨both.2, both.1⟩

end Cut

/-- The slug of a lower-cased text: of the form of a slug, with the alphanumeric characters of the
text, and with a hyphen between two of them exactly where anything else stands between them. -/
structure IsSlugOf (lowered slug : List Char) : Prop where
  form : SlugForm slug
  letters : slug.filter isAlphanumeric = lowered.filter isAlphanumeric
  gaps : ∀ before a gap b after, lowered = before ++ a :: (gap ++ b :: after) →
    isAlphanumeric a = true → (∀ c ∈ gap, isAlphanumeric c = false) → isAlphanumeric b = true →
    ∃ front rest, slug = front ++ a :: ((if gap = [] then [] else ['-']) ++ b :: rest) ∧
      front.filter isAlphanumeric = before.filter isAlphanumeric ∧
      rest.filter isAlphanumeric = after.filter isAlphanumeric

theorem slugList_eq (chars : List Char) :
    slugList chars = cut ((lowercaseList chars).foldl addToSlug []) := rfl

theorem slugForm_slugList (chars : List Char) : SlugForm (slugList chars) :=
  (gathering_nil.foldl (lowercaseList chars)).cut

theorem filter_slugList (chars : List Char) :
    (slugList chars).filter isAlphanumeric = (lowercaseList chars).filter isAlphanumeric := by
  obtain ⟨front, gathered, letters⟩ := exists_foldl_addToSlug (lowercaseList chars) []
  rw [slugList_eq, filter_cut, gathered, List.append_nil, letters]

theorem isSlugOf_slugList (chars : List Char) :
    IsSlugOf (lowercaseList chars) (slugList chars) := by
  refine ⟨slugForm_slugList chars, filter_slugList chars, ?_⟩
  intro before a gap b after read alphanumeric others next
  obtain ⟨early, gathered, earlyLetters⟩ := exists_foldl_addToSlug before []
  rw [List.append_nil] at gathered
  obtain ⟨late, rest, lateLetters⟩ := exists_foldl_addToSlug after
    (b :: ((if gap = [] then [] else ['-']) ++ a :: early))
  refine ⟨early.reverse, cut late, ?_, earlyLetters, by rw [filter_cut, lateLetters]⟩
  rw [slugList_eq, read, List.foldl_append, gathered, List.foldl_cons,
    addToSlug_of_isAlphanumeric alphanumeric, List.foldl_append,
    foldl_addToSlug_gap alphanumeric others, List.foldl_cons, addToSlug_of_isAlphanumeric next,
    rest, cut_append (ne_hyphen_of_isAlphanumeric next)]
  split <;> simp

theorem lowercaseList_slugList (chars : List Char) :
    lowercaseList (slugList chars) = slugList chars := by
  refine lowercaseList_of_settled fun c listed => ?_
  rcases (slugForm_slugList chars).made c listed with alphanumeric | rfl
  · have kept : c ∈ (slugList chars).filter isAlphanumeric :=
      List.mem_filter.mpr ⟨listed, alphanumeric⟩
    rw [filter_slugList] at kept
    exact isSettled_of_mem_lowercaseList (List.mem_of_mem_filter kept)
  · exact isSettled_hyphen

/-- What has the form of a slug and is in lower case is its own slug. -/
theorem slugList_of_slugForm {slug : List Char} (form : SlugForm slug)
    (lowered : lowercaseList slug = slug) : slugList slug = slug := by
  have kept : slug.foldl addToSlug [] = slug.reverse := by
    simpa using @foldl_addToSlug_of_slugForm [] slug form
  rw [slugList_eq, lowered, kept, cut_eq_reverse, List.reverse_reverse]
  rw [List.head?_reverse]
  exact form.closed

end Flowline.Text

namespace Flowline

open Text

/-- A slug is well formed, it keeps the alphanumeric characters of the lower-cased text and the
places where these are parted, and it is its own slug. -/
theorem slugify_well_formed (text : String) :
    IsSlugOf (lowercase text).toList (Transform.slugify.apply text).toList ∧
      Transform.slugify.apply (Transform.slugify.apply text) = Transform.slugify.apply text := by
  have lowered : (lowercase text).toList = lowercaseList text.toList := String.toList_ofList
  have slugged : (Transform.slugify.apply text).toList = slugList text.toList :=
    String.toList_ofList
  refine ⟨?_, ?_⟩
  · rw [lowered, slugged]
    exact isSlugOf_slugList text.toList
  · apply String.toList_inj.mp
    have again : (Transform.slugify.apply (Transform.slugify.apply text)).toList =
        slugList (Transform.slugify.apply text).toList := String.toList_ofList
    rw [again, slugged]
    exact slugList_of_slugForm (slugForm_slugList _) (lowercaseList_slugList _)

example : Transform.slugify.apply "  Hello, World! 2024 " = "hello-world-2024" := by decide +kernel

end Flowline
