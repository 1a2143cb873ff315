import BuildPeer.Text.Numeral

/-!
A span of time in whole milliseconds and its shortest text: `0ns`, `50ms`, `1s`, `1.5s`.
-/

namespace BuildPeer

structure Duration where
  milliseconds : Nat
  deriving DecidableEq, Repr

namespace Duration

def fraction (thousandths : Nat) : String :=
  if thousandths = 0 then ""
  else if thousandths % 100 = 0 then "." ++ toString (thousandths / 100)
  else if thousandths % 10 = 0 then
    "." ++ toString (thousandths / 100) ++ toString (thousandths / 10 % 10)
  else
    "." ++ toString (thousandths / 100) ++ toString (thousandths / 10 % 10) ++
      toString (thousandths % 10)

def text (d : Duration) : String :=
  if d.milliseconds = 0 then "0ns"
  else if d.milliseconds < 1000 then toString d.milliseconds ++ "ms"
  else toString (d.milliseconds / 1000) ++ fraction (d.milliseconds % 1000) ++ "s"

end Duration
end BuildPeer
