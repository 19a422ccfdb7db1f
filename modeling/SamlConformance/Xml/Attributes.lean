import SamlConformance.Xml.Markup

/-!
# Attributes of a Tag

The inside of a tag is a name and a sequence of attributes, which are read one
after the other. Reading stops at the first fault. A fault in a value leaves the
name before it known, which matters because a name that stood before is the
graver fault.

No rules for the characters of a name are enforced: a name is whatever stands
between blanks and the equals sign.

## Main definitions

* `tagName`: The name in the inside of a tag.
* `Assignment`: One attribute as it stands in a tag.
* `assignments`: All of them, up to the first fault.
-/

namespace SamlConformance

namespace Xml

/-- The name of a tag: all up to the first blank. -/
def tagName (inside : List Char) : List Char :=
  inside.takeWhile fun c => !isBlank c

/-- One attribute as it stands in a tag. -/
inductive Assignment where
  /-- A name that begins at a place, and its value with references. -/
  | complete (place : Nat) (key value : List Char)
  /-- A name whose value is faulty. -/
  | noValue (place : Nat) (key : List Char) (fault : AttributeFault)
  /-- A name that no equals sign follows. -/
  | noEquals (fault : AttributeFault)
deriving Repr, DecidableEq

/-- The value after an equals sign: its text and what follows, or the fault.
`place` counts the bytes before `cs`. -/
def quotedValue (place : Nat) (cs : List Char) : Except AttributeFault (List Char × List Char) :=
  let blanks := cs.takeWhile isBlank
  let start := place + Utf8.width blanks
  match cs.dropWhile isBlank with
  | [] => .error (.noValue start)
  | q :: rest =>
    if q = '"' ∨ q = '\x27' then
      match Text.cutFirst q rest with
      | (value, some after) => .ok (value, after)
      | (value, none) => .error (.unclosed (start + 1 + Utf8.width value) q)
    else .error (.unquoted start)

theorem length_cutFirst {sep : Char} {cs before after : List Char}
    (h : Text.cutFirst sep cs = (before, some after)) : after.length < cs.length := by
  induction cs generalizing before with
  | nil => simp [Text.cutFirst] at h
  | cons c cs ih =>
    simp only [Text.cutFirst] at h
    split at h
    · simp only [Prod.mk.injEq, Option.some.injEq] at h
      rw [← h.2, List.length_cons]
      exact Nat.lt_succ_self _
    · simp only [Prod.mk.injEq] at h
      have hcs : Text.cutFirst sep cs = ((Text.cutFirst sep cs).1, some after) := Prod.ext rfl h.2
      have := ih hcs
      rw [List.length_cons]
      omega

theorem length_quotedValue {place : Nat} {cs value more : List Char}
    (h : quotedValue place cs = .ok (value, more)) : more.length < cs.length := by
  have hdrop := (List.dropWhile_suffix (l := cs) isBlank).length_le
  unfold quotedValue at h
  simp only at h
  split at h
  · exact absurd h (by simp)
  · rename_i q rest hq
    rw [hq, List.length_cons] at hdrop
    split at h
    · split at h
      · rename_i v after hv
        simp only [Except.ok.injEq, Prod.mk.injEq] at h
        obtain ⟨-, rfl⟩ := h
        have := length_cutFirst hv
        omega
      · exact absurd h (by simp)
    · exact absurd h (by simp)

/-- A character that may stand inside a name. -/
def isKeyChar (c : Char) : Bool :=
  c != '=' && !isBlank c

/-- The attributes in `cs`, before which `place` bytes of the tag stand. -/
def assignmentsFrom (place : Nat) (cs : List Char) : List Assignment :=
  let keyPlace := place + Utf8.width (cs.takeWhile isBlank)
  match _ : cs.dropWhile isBlank with
  | [] => []
  | k :: rest =>
    let key := k :: rest.takeWhile isKeyChar
    let after := rest.dropWhile isKeyChar
    let equalsPlace := keyPlace + Utf8.width key + Utf8.width (after.takeWhile isBlank)
    match _ : after.dropWhile isBlank with
    | '=' :: valued =>
      match _ : quotedValue (equalsPlace + 1) valued with
      | .error f => [.noValue keyPlace key f]
      | .ok (value, more) =>
        let used := Utf8.width valued - Utf8.width more
        .complete keyPlace key value :: assignmentsFrom (equalsPlace + 1 + used) more
    | _ => [.noEquals (.noEquals equalsPlace)]
termination_by cs.length
decreasing_by
  have h1 := (List.dropWhile_suffix (l := cs) isBlank).length_le
  have h2 := (List.dropWhile_suffix (l := rest) isKeyChar).length_le
  have h3 := (List.dropWhile_suffix (l := rest.dropWhile isKeyChar) isBlank).length_le
  have h4 := length_quotedValue ‹quotedValue _ valued = _›
  rw [‹cs.dropWhile isBlank = _›, List.length_cons] at h1
  rw [‹(rest.dropWhile isKeyChar).dropWhile isBlank = _›, List.length_cons] at h3
  omega

/-- The attributes in the inside of a tag, up to the first fault. -/
def assignments (inside : List Char) : List Assignment :=
  let name := tagName inside
  assignmentsFrom (Utf8.width name) (inside.drop name.length)

/-- The attributes without their references resolved: names and values up to the
first fault. -/
def bindings (inside : List Char) : List (List Char × List Char) :=
  ((assignments inside).takeWhile fun
    | .complete .. => true
    | _ => false).filterMap fun
    | .complete _ k v => some (k, v)
    | _ => none

end Xml

end SamlConformance
