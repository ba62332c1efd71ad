namespace ServiceClient

inductive FileError : Type
  | notFound : FileError
  | alreadyExists : FileError
  | isDirectory : FileError
  | notDirectory : FileError
  | nameTooLong : FileError
  | nullInName : FileError
  | other : FileError
  deriving DecidableEq, Repr

end ServiceClient
