import TensorBench.Weights.Eightbit

/-!
The weight encodings by name.
-/
namespace TensorBench

inductive Encoding where
  | raw
  | eightbit
deriving DecidableEq, Inhabited

namespace Encoding

def all : List Encoding := [raw, eightbit]

def name : Encoding → String
  | raw => "raw"
  | eightbit => "eightbit"

def ofName? (text : String) : Option Encoding := all.find? (·.name == text)

def ofName (text : String) : Except Failure Encoding :=
  match ofName? text with
  | some encoding => .ok encoding
  | none => .error (.unsupportedEncoding text)

/-- The buffer of a layout with its static part read from a weight file. -/
def decode {α : Type} [Scalar α] (encoding : Encoding) (bytes : Bytes) (layout : Layout) :
    Except Stop (Array α) :=
  match encoding with
  | raw => Weights.Raw.decode bytes layout
  | eightbit => Weights.Eightbit.decode bytes layout

def encode (encoding : Encoding) (values : List Binary32) : Bytes :=
  match encoding with
  | raw => Weights.Raw.encode values
  | eightbit => Weights.Eightbit.encode values

end Encoding

end TensorBench
