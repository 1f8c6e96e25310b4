namespace Rehearsal.Command

-- What a run is asked for. Empty names count as missing.
structure Options where
  features : String := "features"
  output : String := ""
  config : String := ""
  environment : String := ""
  tags : List String := []
  target : String := ""
  noRetry : Bool := false
  print : Bool := false
  deriving DecidableEq, Repr

end Rehearsal.Command
