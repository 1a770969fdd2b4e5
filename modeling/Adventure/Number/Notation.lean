import Adventure.Number.Shortest

/-! Writing a double with its shortest digits, laid out by a `FloatStyle`: the displayed style and
that of the data format. -/

namespace Adventure.Number

/-- How a double is laid out once its shortest digits are known. A value `0.d1...dn * 10^p`
is written positionally when `lowest < p` and `p ≤ highest`, and otherwise as
`d1.d2...dn` followed by the mark and the exponent `p - 1`. -/
structure FloatStyle where
  lowest : Int
  highest : Int
  mark : Char
  exponentWidth : Nat
  pointZero : Bool
  infinityWord : String
  nanWord : String

namespace FloatStyle

/-- Positional from `1e-4` up to below `1e16`; exponents signed and at least two digits
wide; integral values end in `.0`. -/
def plain : FloatStyle where
  lowest := -4
  highest := 16
  mark := 'e'
  exponentWidth := 2
  pointZero := true
  infinityWord := "inf"
  nanWord := "nan"

/-- As `plain`, with the words of the data format for infinity and not-a-number. -/
def json : FloatStyle := { plain with infinityWord := "Infinity", nanWord := "NaN" }

end FloatStyle

/-- `n` zeros. -/
def zeros (n : Nat) : List Char := List.replicate n '0'

/-- The characters of the digits `ds` with the decimal point at position `p`, in the style `st`. -/
def layoutDigits (st : FloatStyle) (ds : List Char) (p : Int) : List Char :=
  if st.lowest < p ∧ p ≤ st.highest then
    if p ≤ 0 then ['0', '.'] ++ zeros (-p).toNat ++ ds
    else if p.toNat < ds.length then ds.take p.toNat ++ ['.'] ++ ds.drop p.toNat
    else ds ++ zeros (p.toNat - ds.length) ++ (if st.pointZero then ['.', '0'] else [])
  else
    let exponent := p - 1
    let body := match ds with
      | [] => ['0']
      | [d] => [d]
      | d :: rest => d :: '.' :: rest
    let expDigits := Nat.toDigits 10 exponent.natAbs
    body ++ [st.mark, if exponent < 0 then '-' else '+'] ++
      zeros (st.exponentWidth - expDigits.length) ++ expDigits

/-- The text of a double in the style `st`. -/
def FloatStyle.render (st : FloatStyle) (f : Float) : String :=
  match Binary.ofFloat f with
  | .nan => st.nanWord
  | .infinite negative => (if negative then "-" else "") ++ st.infinityWord
  | .finite negative m e =>
    let sign := if negative then "-" else ""
    if m = 0 then sign ++ "0.0"
    else
      let d := shortestDigits m e
      sign ++ String.ofList (layoutDigits st d.digits d.point)

end Adventure.Number
