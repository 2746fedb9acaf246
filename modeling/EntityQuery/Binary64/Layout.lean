import EntityQuery.Binary64.Digits

/-!
# Texts of floating-point numbers

A `Layout` holds what a format decides about the digits of a number: which
numbers are written positionally, how a whole number ends, how an exponent is
written, and which decimal a tie takes. `plain` is the layout of messages,
`detailed` that of diagnostics and `json` that of documents; all three write the
fewest digits that read back. `stored` is the text that the database gives a
number where it needs one as text: fifteen digits.
-/

namespace EntityQuery.Binary64

/-- The choices of a format for the texts of finite numbers. -/
structure Layout where
  /-- Whether a number whose first digit has this power of ten is written
      without an exponent. -/
  positional : Int → Bool
  /-- What follows a whole number that is written without an exponent. -/
  wholeEnd : String
  /-- What follows a single digit that is written with an exponent. -/
  digitEnd : String
  /-- How an exponent is written after the `e`. -/
  exponentText : Int → String
  /-- The decimal for a number between two of them. -/
  tie : Tie

namespace Layout

/-- `n` zeros. -/
def zeros (n : Nat) : List Char := List.replicate n '0'

/-- The digits of a decimal without an exponent. -/
def positionalText (layout : Layout) (d : Decimal) : String :=
  let digits := Nat.toDigits 10 d.coefficient
  let point : Int := digits.length + d.power
  String.ofList <|
    if 0 ≤ d.power then digits ++ zeros d.power.toNat ++ layout.wholeEnd.toList
    else if point ≤ 0 then ['0', '.'] ++ zeros (-point).toNat ++ digits
    else digits.take point.toNat ++ ['.'] ++ digits.drop point.toNat

/-- The digits of a decimal with one of them before the point, and an exponent. -/
def scientificText (layout : Layout) (d : Decimal) : String :=
  let digits := Nat.toDigits 10 d.coefficient
  let first := String.ofList (digits.take 1)
  let rest := String.ofList (digits.drop 1)
  first ++ (if rest.isEmpty then layout.digitEnd else "." ++ rest) ++ "e" ++
    layout.exponentText (digits.length + d.power - 1)

/-- The text of a decimal other than zero. -/
def decimalText (layout : Layout) (d : Decimal) : String :=
  if layout.positional (digitCount d.coefficient + d.power - 1) then layout.positionalText d
  else layout.scientificText d

/-- The text of a finite number, by its shortest decimal. -/
def text (layout : Layout) (x : Binary64) : String :=
  (if x.negative then "-" else "") ++
    (if x.isZero then "0" ++ layout.wholeEnd else layout.decimalText (x.shortest layout.tie))

/-- Messages: never an exponent. -/
def plain : Layout where
  positional _ := true
  wholeEnd := ""
  digitEnd := ""
  exponentText := toString
  tie := .upper

/-- Diagnostics: a point in every number, an exponent below `0.0001` and from
    `1e16` on. -/
def detailed : Layout where
  positional e := -4 ≤ e && e < 16
  wholeEnd := ".0"
  digitEnd := ""
  exponentText := toString
  tie := .upper

/-- Documents: a point in every number, an exponent with its sign below
    `0.00001` and from `1e16` on. -/
def json : Layout where
  positional e := -5 ≤ e && e < 16
  wholeEnd := ".0"
  digitEnd := ""
  exponentText e := (if 0 ≤ e then "+" else "") ++ toString e
  tie := .even

/-- The text that the database gives a number: a point in every number, and an
    exponent of at least two digits below `0.0001` and from `1e15` on. -/
def stored : Layout where
  positional e := -4 ≤ e && e < 15
  wholeEnd := ".0"
  digitEnd := ".0"
  exponentText e :=
    (if 0 ≤ e then "+" else "-") ++ (if e.natAbs < 10 then "0" else "") ++ toString e.natAbs
  tie := .upper

end Layout

/-- The text of any number in a layout for the finite ones. -/
def text (layout : Layout) (x : Binary64) : String :=
  if x.isNaN then "NaN"
  else if x.isInfinite then (if x.negative then "-inf" else "inf")
  else layout.text x

/-- The text of a number in a document, which has none for what is not finite. -/
def jsonText (x : Binary64) : String := if x.isFinite then Layout.json.text x else "null"

/-- The text that the database gives a stored number. -/
def storedText (x : Binary64) : String :=
  if x.isInfinite then (if x.negative then "-Inf" else "Inf")
  else if x.isZero then "0.0"
  else (if x.negative then "-" else "") ++ Layout.stored.decimalText (x.rounded 15)

end EntityQuery.Binary64
