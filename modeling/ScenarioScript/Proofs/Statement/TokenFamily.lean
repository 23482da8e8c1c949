import Mathlib.Data.List.Find
import ScenarioScript.Proofs.Statement.Rewriting

/-!
# The family of a token

Validation cuts a token out of its statement and looks for a family with its shape.  Resolution
never sees the token: it searches the whole statement with the shape of each family.

**One family.**  No family's mark begins with another's, so a token has the shape of one family at
most (`family_eq_of_accepts`), and the order in which families are asked does not matter.

**One extent.**  In its statement, a token ends at the first bracket that may close it.  The shape
of its family begins to look for this bracket further on, behind its own lead.  Since the token has
room for the lead and an argument, it is the same bracket that is found (`search_of_accepts`).

* `tokens_belong_to_one_family` — the result.
-/

namespace ScenarioScript

/-- **Two families that accept a token are the same**: its beginning tells which one it is. -/
lemma family_eq_of_accepts {token : Text} {first second : Family} (hfirst : first ∈ registry)
    (hsecond : second ∈ registry) (h : first.shape.accepts token = true)
    (h' : second.shape.accepts token = true) : first = second := by
  have hmark : ∀ {family : Family}, family.shape.accepts token = true →
      family.tag.shape.mark <+: token := by
    intro family haccepts
    obtain ⟨argument, hargument⟩ := Option.isSome_iff_exists.mp haccepts
    obtain ⟨rfl, hadmits⟩ := Shape.argument?_eq_some_iff.mp hargument
    exact Shape.mark_prefix_token hadmits
  have htag : first.tag = second.tag := tag_eq_of_mark_prefix (hmark h) (hmark h')
  rw [eq_ofTag_of_mem_registry hfirst, eq_ofTag_of_mem_registry hsecond, htag]

/-- **A search from the start of a token** finds it again, with the argument that it has on its
    own. -/
lemma search_of_accepts {shape : Shape} {statement argument : Text} {t : Occurrence}
    (ht : t ∈ Shape.any.candidates statement)
    (h : shape.argument? (Shape.any.token t.argument) = some argument) :
    shape.search statement t.start = some ⟨t.start, t.stop, argument⟩ := by
  refine Shape.search_eq_some_iff.mpr
    ⟨Shape.mem_candidates_of_accepts ht h, Int.le_refl _, ?_⟩
  intro p _ hposition
  exact Int.ofNat_le.mp hposition

/-- **A token belongs to one family, and has one extent.**

    * Any text has the shape of one family at most, as a whole token.
    * So the family of a token is the same whatever the order of the registry is.
    * Wherever a token is found in a statement, a family that accepts the text of the token finds
      the same extent when it searches the statement from there, with the same argument as in the
      token on its own. -/
theorem tokens_belong_to_one_family :
    (∀ token : Text, ∀ first ∈ registry, ∀ second ∈ registry,
        first.shape.accepts token = true → second.shape.accepts token = true → first = second)
      ∧ (∀ (token : Text) (families : List Family), families.Perm registry →
          families.find? (fun family => family.shape.accepts token) = familyOf? token)
      ∧ ∀ statement : Text, ∀ t ∈ Shape.any.occurrences statement, ∀ family ∈ registry,
          family.shape.accepts ((statement.take t.stop).drop t.start) = true →
            ∃ argument,
              family.shape.argument? ((statement.take t.stop).drop t.start) = some argument
                ∧ family.shape.search statement t.start = some ⟨t.start, t.stop, argument⟩ := by
  refine ⟨?_, ?_, ?_⟩
  · intro token first hfirst second hsecond h h'
    exact family_eq_of_accepts hfirst hsecond h h'
  · intro token families hperm
    refine List.find?_eq_find?_of_perm hperm ?_
    rintro first ⟨hfirst, h⟩ second ⟨hsecond, h'⟩
    exact family_eq_of_accepts (hperm.mem_iff.mp hfirst) (hperm.mem_iff.mp hsecond) h h'
  · intro statement t ht family _ haccepts
    obtain ⟨argument, hargument⟩ := Option.isSome_iff_exists.mp haccepts
    refine ⟨argument, hargument, ?_⟩
    rw [← token_eq_of_mem_occurrences ht] at hargument
    exact search_of_accepts (Shape.mem_candidates_of_mem_occurrences ht) hargument

/-- The case of a token with another one inside it: cut out of its statement it is a visit, and the
    search for visits stops where it has been cut, behind two brackets that do not close it. -/
theorem tokens_belong_to_one_family_nested :
    let statement := "x <visit_url <click_a> > y> <end>".toText
    let token := "<visit_url <click_a> > y>".toText
    (∀ family ∈ registry, family.shape.accepts token = true → family = Family.ofTag .visit)
      ∧ registry.reverse.find? (fun family => family.shape.accepts token) = familyOf? token
      ∧ (Family.ofTag .visit).shape.search statement 2
        = some ⟨2, 27, "url <click_a> > y".toText⟩ := by
  obtain ⟨hunique, horder, hsearch⟩ := tokens_belong_to_one_family
  have hvisit := ofTag_mem_registry .visit
  refine ⟨?_, horder _ _ registry.reverse_perm, ?_⟩
  · intro family hfamily haccepts
    exact hunique _ family hfamily _ hvisit haccepts (by decide)
  · have htoken : ⟨2, 27, "visit_url <click_a> > y".toText⟩
        ∈ Shape.any.occurrences "x <visit_url <click_a> > y> <end>".toText := by
      decide
    obtain ⟨argument, hargument, hfound⟩ := hsearch _ _ htoken _ hvisit (by decide)
    have hown : (Family.ofTag .visit).shape.argument? "<visit_url <click_a> > y>".toText
        = some "url <click_a> > y".toText := by
      decide
    obtain rfl := Option.some.inj (hown.symm.trans hargument)
    exact hfound

end ScenarioScript
