import ConfigTemplate.Proofs.Scalar

/-!
# Values in their canonical form

A value that a domain has read is in a canonical form: given to the domain again, as a typed value,
as JSON or as its own text, it comes back unchanged.  A typed value that merely passes the check of
the domain comes back from its text too, but a path or a word loses the blanks around it:
`yielded_canonical`.
-/

namespace ConfigTemplate.Domain

/-- The domain reads some free text or some JSON value as the value. -/
def Yields (d : Domain) (name : String) (v : Scalar) : Prop :=
  (∃ raw, d.parse name raw = .ok v) ∨ ∃ value, d.accept name value = .ok v

/-- The canonical form of a value: a path or a word has no blanks around it. -/
def canonical : Domain → Scalar → Scalar
  | .path, .text s | .enumeration _, .text s => .text (Text.trim s)
  | _, v => v

variable {d : Domain} {name : String} {v : Scalar}

/-! ### Canonical forms -/

theorem canonical_boolean (d : Domain) (b : Bool) :
  d.canonical (.boolean b) = .boolean b
  := by
  cases d <;> rfl

theorem canonical_number (d : Domain) (n : Number) :
  d.canonical (.number n) = .number n
  := by
  cases d <;> rfl

/-- The canonical form of a value of the domain belongs to the domain. -/
theorem admits_canonical (admitted : d.admits v = true) :
  d.admits (d.canonical v) = true
  := by
  unfold canonical
  split
  · rwa [admits, Text.isBlankText_trim]
  · rwa [admits, Text.isBlankText_trim]
  · exact admitted

/-- What is read is in its canonical form. -/
theorem canonical_of_read {raw : String} (read : d.read? raw = some v) :
  d.canonical v = v
  := by
  cases d with
  | path | enumeration known =>
    obtain rfl := Option.some.inj read
    rw [canonical, Text.trim_trim]
  | boolean | positiveInteger | nonNegativeInteger | integer | integerRange | number | text => rfl

theorem canonical_of_yields (yields : d.Yields name v) :
  d.canonical v = v
  := by
  rcases yields with ⟨raw, parsed⟩ | ⟨value, accepted⟩
  · exact canonical_of_read (parse_eq_ok_iff.1 parsed).1
  · cases value with
    | string raw => exact canonical_of_read (parse_eq_ok_iff.1 accepted).1
    | boolean b =>
      obtain ⟨-, rfl⟩ := map_check_eq_ok_iff.1 accepted
      exact canonical_boolean d b
    | number n =>
      obtain ⟨-, rfl⟩ := map_check_eq_ok_iff.1 accepted
      exact canonical_number d n
    | null | array | object => simp [accept] at accepted

/-- What comes out of a domain passes its check. -/
theorem check_of_yields (yields : d.Yields name v) :
  d.check name v = .ok ()
  := by
  rcases yields with ⟨raw, parsed⟩ | ⟨value, accepted⟩
  · exact check_of_parse parsed
  · exact check_of_accept accepted

/-! ### Values as texts and as JSON -/

/-- A domain that admits a number reads every text as a number. -/
theorem read?_of_admits_number {n : Number} (admitted : d.admits (.number n) = true)
    (raw : String) :
  d.read? raw = (Number.parse? (Text.trim raw).toList).map .number
  := by
  cases d with
  | positiveInteger | nonNegativeInteger | integer | integerRange | number => rfl
  | boolean | path | enumeration | text => simp [admits] at admitted

/-- The text of a value of the domain is read as the canonical form of the value. -/
theorem read?_display (whole : v.Whole) (admitted : d.admits v = true) :
  d.read? v.display = some (d.canonical v)
  := by
  -- apart from the domains of its own kind, none admits the value
  cases v with
  | boolean b =>
    cases d with
    | boolean =>
      rw [Scalar.display, read?, Text.trim_eq_self (Scalar.trimmed_booleanText b),
        Scalar.parseBoolean?_booleanText]
      rfl
    | positiveInteger | nonNegativeInteger | integer | integerRange | number | path
      | enumeration | text => simp [admits] at admitted
  | number n =>
    cases n with
    | float x => exact whole.elim
    | integer value fits =>
      have none : Text.Blank "".toList := List.forall_mem_nil _
      have read := Number.parse?_trim_integerText none none value fits
      rw [String.empty_append, String.append_empty] at read
      rw [read?_of_admits_number admitted, canonical_number]
      exact congrArg (Option.map Scalar.number) read
  | text s =>
    cases d with
    | path | enumeration | text => rfl
    | positiveInteger | nonNegativeInteger | integer | integerRange | number | boolean =>
      simp [admits] at admitted

theorem parse_display (whole : v.Whole) (checked : d.check name v = .ok ()) :
  d.parse name v.display = .ok (d.canonical v)
  := by
  have admitted := check_eq_ok_iff.1 checked
  exact parse_eq_ok_iff.2 ⟨read?_display whole admitted, admits_canonical admitted⟩

/-- A value of the domain is accepted as JSON, and it comes in as its canonical form. -/
theorem accept_toValue (checked : d.check name v = .ok ()) :
  d.accept name v.toValue = .ok (d.canonical v)
  := by
  cases v with
  | boolean b => exact map_check_eq_ok_iff.2 ⟨checked, (canonical_boolean d b).symm⟩
  | number n => exact map_check_eq_ok_iff.2 ⟨checked, (canonical_number d n).symm⟩
  | text s => exact parse_display (v := .text s) trivial checked

/-- **Values that are read are canonical.**  A value that a domain gives for a free text or a JSON
value passes the check of the domain, and the domain gives the same value for its JSON value, and
for its text as well if it is no floating point number.  Any other value that passes the check is
given for its own text too, but for blanks around a path or a word. -/
theorem yielded_canonical (d : Domain) (name : String) :
  (∀ v, d.Yields name v →
      d.check name v = .ok ()
        ∧ d.accept name v.toValue = .ok v
        ∧ (v.Whole → d.parse name v.display = .ok v))
    ∧ ∀ v : Scalar, v.Whole → d.check name v = .ok () →
        d.parse name v.display = .ok (d.canonical v)
  := by
  constructor
  · intro v yields
    have checked := check_of_yields yields
    have same : Except.ok (d.canonical v) = (.ok v : Except Error Scalar) :=
      congrArg Except.ok (canonical_of_yields yields)
    refine ⟨checked, (accept_toValue checked).trans same, ?_⟩
    intro whole
    exact (parse_display whole checked).trans same
  · intro v whole checked
    exact parse_display whole checked

/-- A path between blanks: read, it is without them, and set as it is, it loses them on the way
through its text. -/
theorem yielded_canonical_path :
  path.accept "CL_CLUSTER_PATH" (.string "/data") = .ok (.text "/data")
    ∧ path.parse "CL_CLUSTER_PATH" "/data" = .ok (.text "/data")
    ∧ path.parse "CL_CLUSTER_PATH" " /data\n" = .ok (.text "/data")
  := by
  obtain ⟨reread, fromText⟩ := yielded_canonical path "CL_CLUSTER_PATH"
  have yields : path.Yields "CL_CLUSTER_PATH" (.text "/data") := .inl ⟨"\t/data", by decide⟩
  obtain ⟨-, accepted, parsed⟩ := reread (.text "/data") yields
  exact ⟨accepted, parsed trivial, fromText (.text " /data\n") trivial (by decide)⟩

end ConfigTemplate.Domain
