import AdvisorAI.Lib.JsonTexts

/-!
# An object with a line for each member

How `json.dumps(..., indent=2)` lays out an object whose values are scalars. The reader skips
the spaces between the tokens, so that such a text is read back as well (`loads_indented`).
-/

namespace AdvisorAI.Lib.Json

open List

section Layout

variable (quoteText : String → List Char)

/-- What stands in front of a member: the end of the line and two spaces. -/
def indentation : List Char := [Char.ofNat 10, ' ', ' ']

def laidOut (name : String) (value : Tree) : List Char :=
  quoteText name ++ ':' :: ' ' :: write quoteText value

/-- The members after the first, and the closing bracket. -/
def indentedRest : List (String × Tree) → List Char
  | [] => [Char.ofNat 10, '}']
  | (name, value) :: members =>
    ',' :: indentation ++ laidOut quoteText name value ++ indentedRest members

/-- `json.dumps(members, indent=2)`, for values that are scalars. -/
def indented : List (String × Tree) → List Char
  | [] => ['{', '}']
  | (name, value) :: members =>
    '{' :: indentation ++ laidOut quoteText name value ++ indentedRest quoteText members

end Layout

variable {quoteText : String → List Char}

theorem skipSpace_indentation (cs : List Char) : skipSpace (indentation ++ cs) = skipSpace cs := by
  unfold skipSpace indentation
  rw [cons_append, dropWhile_cons_of_pos (by decide), cons_append,
    dropWhile_cons_of_pos (by decide), cons_append,
    dropWhile_cons_of_pos (by decide), nil_append]

theorem readValue_space (fuel : ℕ) (cs : List Char) :
    readValue fuel (' ' :: cs) = readValue fuel cs := by
  have hskip : skipSpace (' ' :: cs) = skipSpace cs := dropWhile_cons_of_pos (by decide)
  cases fuel with
  | zero => rfl
  | succ fuel => rw [readValue, readValue, hskip]

theorem readMember_indentation {α : Type} (read : List Char → Option (α × List Char))
    (cs : List Char) : readMember read (indentation ++ cs) = readMember read cs := by
  unfold readMember
  rw [skipSpace_indentation]

theorem readSequence_indentation {α : Type} {read : List Char → Option (α × List Char)}
    (hread : ∀ cs, read (indentation ++ cs) = read cs) (close : Char) (fuel : ℕ) (cs : List Char) :
    readSequence read close fuel (indentation ++ cs) = readSequence read close fuel cs := by
  unfold readSequence
  rw [skipSpace_indentation, hread]

theorem indentedRest_ends (members : List (String × Tree)) (x : List Char) :
    NumberEnds (indentedRest quoteText members ++ x) := by
  cases members with
  | nil | cons => exact numberEnds_cons (by decide)

section RoundTrip

variable (hquote : ReadBack quoteText)

include hquote

theorem readMember_laidOut {name : String} {value : Tree} {fuel : ℕ} {x : List Char}
    (hfuel : size value ≤ fuel) (hx : NumberEnds x) :
    readMember (readValue fuel) (laidOut quoteText name value ++ x) = some ((name, value), x) := by
  have hvalue : readValue fuel (' ' :: write quoteText value ++ x) = some (value, x) := by
    rw [cons_append, readValue_space, readValue_write hquote value fuel x hfuel hx]
  unfold laidOut
  rw [append_assoc]
  exact readMember_cons hquote hvalue

variable (members : List (String × Tree))

theorem readRest_indented (fuel left : ℕ) (x : List Char) (hfuel : ∀ m ∈ members, size m.2 ≤ fuel)
    (hleft : members.length < left) :
    readRest (readMember (readValue fuel)) '}' left (indentedRest quoteText members ++ x)
      = some (members, x) := by
  induction members generalizing left with
  | nil =>
    obtain ⟨left, rfl⟩ : ∃ k, left = k + 1 := ⟨left - 1, by simp at hleft; omega⟩
    unfold readRest
    have hskip : skipSpace (indentedRest quoteText [] ++ x) = '}' :: x := by
      unfold skipSpace indentedRest
      rw [cons_append, dropWhile_cons_of_pos (by decide)]
      exact dropWhile_cons_of_neg (by decide)
    rw [hskip]
    dsimp only
    rw [if_pos rfl]
  | cons member members ih =>
    obtain ⟨name, value⟩ := member
    obtain ⟨left, rfl⟩ : ∃ k, left = k + 1 := ⟨left - 1, by simp at hleft; omega⟩
    have hmembers := ih left (fun m hm => hfuel m (mem_cons_of_mem _ hm))
      (by simp at hleft; omega)
    have hvalue : readMember (readValue fuel)
        (laidOut quoteText name value ++ (indentedRest quoteText members ++ x))
        = some ((name, value), indentedRest quoteText members ++ x) :=
      readMember_laidOut hquote (hfuel _ mem_cons_self) (indentedRest_ends members x)
    have htext : indentedRest quoteText ((name, value) :: members) ++ x
        = ',' :: (indentation ++ (laidOut quoteText name value
          ++ (indentedRest quoteText members ++ x))) := by
      show ',' :: indentation ++ laidOut quoteText name value ++ indentedRest quoteText members ++ x
        = _
      simp
    rw [htext]
    refine readRest_cons (by decide) ?_ hmembers
    rw [readMember_indentation]
    exact hvalue

theorem indentedRest_length :
    members.length < (indentedRest quoteText members).length ∧
    ∀ m ∈ members, size m.2 ≤ (indentedRest quoteText members).length := by
  induction members with
  | nil => exact ⟨by simp [indentedRest], fun m hm => absurd hm not_mem_nil⟩
  | cons member members ih =>
    obtain ⟨name, value⟩ := member
    obtain ⟨hlength, hsize⟩ := ih
    have hvalue := size_le_length hquote value
    have htext : (indentedRest quoteText ((name, value) :: members)).length
        = 4 + (quoteText name).length + (2 + (write quoteText value).length)
          + (indentedRest quoteText members).length := by
      simp [indentedRest, laidOut, indentation]
      omega
    rw [htext]
    refine ⟨?_, ?_⟩
    · rw [length_cons]
      omega
    · intro m hm
      rcases mem_cons.mp hm with rfl | hm
      · dsimp only
        omega
      · have hle := hsize m hm
        omega

/-- **What was laid out is read back.** -/
theorem loads_indented (trailing : List Char) (htrailing : skipSpace trailing = []) :
    loads (indented quoteText members ++ trailing) = some (.object members) := by
  cases members with
  | nil =>
    have hread : readValue ((indented quoteText [] ++ trailing).length + 1)
        (indented quoteText [] ++ trailing) = some (.object [], trailing) := by
      show readValue (_ + 1) ('{' :: '}' :: trailing) = _
      rw [readValue_object, readSequence_nil (by decide)]
      rfl
    unfold loads
    rw [hread, Option.bind_some]
    rw [if_pos htrailing]
  | cons member members =>
    obtain ⟨name, value⟩ := member
    obtain ⟨hlength, hsizes⟩ := indentedRest_length hquote members
    have hvalue := size_le_length hquote value
    have htext : indented quoteText ((name, value) :: members) ++ trailing
        = '{' :: (indentation ++ (laidOut quoteText name value
          ++ (indentedRest quoteText members ++ trailing))) := by
      show '{' :: indentation ++ laidOut quoteText name value ++ indentedRest quoteText members
        ++ trailing = _
      simp
    obtain ⟨body, hbody, -⟩ := readString_quoteText hquote name (':' :: ' ' ::
      write quoteText value ++ (indentedRest quoteText members ++ trailing))
    have hfuel : (indented quoteText ((name, value) :: members) ++ trailing).length
        = 4 + (quoteText name).length + (2 + (write quoteText value).length)
          + (indentedRest quoteText members).length + trailing.length := by
      rw [htext]
      simp [laidOut, indentation]
      omega
    have hfirst : readMember
        (readValue (indented quoteText ((name, value) :: members) ++ trailing).length)
        (laidOut quoteText name value ++ (indentedRest quoteText members ++ trailing))
        = some ((name, value), indentedRest quoteText members ++ trailing) :=
      readMember_laidOut hquote (by omega) (indentedRest_ends members trailing)
    have hmore := readRest_indented hquote members
      (indented quoteText ((name, value) :: members) ++ trailing).length
      (indented quoteText ((name, value) :: members) ++ trailing).length trailing
      (fun m hm => by have hle := hsizes m hm; omega) (by omega)
    have hread : readValue ((indented quoteText ((name, value) :: members) ++ trailing).length + 1)
        (indented quoteText ((name, value) :: members) ++ trailing)
        = some (.object ((name, value) :: members), trailing) := by
      generalize (indented quoteText ((name, value) :: members) ++ trailing).length = fuel at *
      have hstart : laidOut quoteText name value ++ (indentedRest quoteText members ++ trailing)
          = quote :: body := (append_assoc _ _ _).trans hbody
      rw [htext, readValue_object, readSequence_indentation (readMember_indentation _),
        readSequence_cons (by decide) (by decide) hstart hfirst hmore]
      rfl
    unfold loads
    rw [hread, Option.bind_some]
    rw [if_pos htrailing]

theorem indented_injective {members members' : List (String × Tree)} {trailing : List Char}
    (htrailing : skipSpace trailing = [])
    (h : indented quoteText members ++ trailing = indented quoteText members' ++ trailing) :
    members = members' := by
  have hread := loads_indented hquote members trailing htrailing
  rw [h, loads_indented hquote members' trailing htrailing] at hread
  exact (Tree.object.inj (Option.some.inj hread)).symm

end RoundTrip

end AdvisorAI.Lib.Json
