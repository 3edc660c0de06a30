/-!
Node kinds and field names of the JavaScript/TypeScript grammar.

A kind is known by the name the grammar gives it. The kinds this library reads have a constructor
of their own and every other kind keeps its name. A keyword token and a named node may share one
name, and then they share one kind: `class` is both an expression and a word.
-/

namespace PromiseDetection

inductive Kind where
  | program
  | statementBlock
  | switchCase
  | switchDefault
  | comment
  | functionDeclaration
  | generatorDeclaration
  | functionExpression
  | generatorExpression
  | arrowFunction
  | methodDefinition
  | functionWord
  | classDeclaration
  | abstractClassDeclaration
  | classExpression
  | classBody
  | classHeritage
  | extendsClause
  | parenthesized
  | nonNull
  | asExpression
  | satisfiesExpression
  | sequenceExpression
  | typeAssertion
  | identifier
  | thisReference
  | newExpression
  | callExpression
  | awaitExpression
  | memberExpression
  | objectLiteral
  | ternaryExpression
  | binaryExpression
  | assignment
  | stringLiteral
  | stringFragment
  | templateString
  | numberLiteral
  | trueLiteral
  | falseLiteral
  | nullLiteral
  | arrayLiteral
  | variableDeclarator
  | lexicalDeclaration
  | variableDeclaration
  | pair
  | shorthandProperty
  | spreadElement
  | computedPropertyName
  | publicFieldDefinition
  | fieldDefinition
  | propertyIdentifier
  | privatePropertyIdentifier
  | returnStatement
  | expressionStatement
  | annotatedType
  | typeIdentifier
  | nestedTypeIdentifier
  | genericType
  | predefinedType
  | parenthesizedType
  | readonlyType
  | unionType
  | intersectionType
  | objectType
  | interfaceBody
  | functionType
  | literalType
  | arrayType
  | tupleType
  | typeArguments
  | interfaceDeclaration
  | typeAliasDeclaration
  | extendsTypeClause
  | propertySignature
  | methodSignature
  | abstractMethodSignature
  | functionSignature
  | ambientDeclaration
  | exportStatement
  | importStatement
  | importClause
  | namespaceImport
  | namedImports
  | importSpecifier
  | namespaceExport
  | exportClause
  | exportSpecifier
  | accessibilityModifier
  | importWord
  | asyncWord
  | getWord
  | staticWord
  | readonlyWord
  | defaultWord
  | star
  | logicalAnd
  | logicalOr
  | nullish
  | other (name : String)
  deriving DecidableEq, Repr, Inhabited

namespace Kind

def name : Kind → String
  | .program => "program"
  | .statementBlock => "statement_block"
  | .switchCase => "switch_case"
  | .switchDefault => "switch_default"
  | .comment => "comment"
  | .functionDeclaration => "function_declaration"
  | .generatorDeclaration => "generator_function_declaration"
  | .functionExpression => "function_expression"
  | .generatorExpression => "generator_function"
  | .arrowFunction => "arrow_function"
  | .methodDefinition => "method_definition"
  | .functionWord => "function"
  | .classDeclaration => "class_declaration"
  | .abstractClassDeclaration => "abstract_class_declaration"
  | .classExpression => "class"
  | .classBody => "class_body"
  | .classHeritage => "class_heritage"
  | .extendsClause => "extends_clause"
  | .parenthesized => "parenthesized_expression"
  | .nonNull => "non_null_expression"
  | .asExpression => "as_expression"
  | .satisfiesExpression => "satisfies_expression"
  | .sequenceExpression => "sequence_expression"
  | .typeAssertion => "type_assertion"
  | .identifier => "identifier"
  | .thisReference => "this"
  | .newExpression => "new_expression"
  | .callExpression => "call_expression"
  | .awaitExpression => "await_expression"
  | .memberExpression => "member_expression"
  | .objectLiteral => "object"
  | .ternaryExpression => "ternary_expression"
  | .binaryExpression => "binary_expression"
  | .assignment => "assignment_expression"
  | .stringLiteral => "string"
  | .stringFragment => "string_fragment"
  | .templateString => "template_string"
  | .numberLiteral => "number"
  | .trueLiteral => "true"
  | .falseLiteral => "false"
  | .nullLiteral => "null"
  | .arrayLiteral => "array"
  | .variableDeclarator => "variable_declarator"
  | .lexicalDeclaration => "lexical_declaration"
  | .variableDeclaration => "variable_declaration"
  | .pair => "pair"
  | .shorthandProperty => "shorthand_property_identifier"
  | .spreadElement => "spread_element"
  | .computedPropertyName => "computed_property_name"
  | .publicFieldDefinition => "public_field_definition"
  | .fieldDefinition => "field_definition"
  | .propertyIdentifier => "property_identifier"
  | .privatePropertyIdentifier => "private_property_identifier"
  | .returnStatement => "return_statement"
  | .expressionStatement => "expression_statement"
  | .annotatedType => "type_annotation"
  | .typeIdentifier => "type_identifier"
  | .nestedTypeIdentifier => "nested_type_identifier"
  | .genericType => "generic_type"
  | .predefinedType => "predefined_type"
  | .parenthesizedType => "parenthesized_type"
  | .readonlyType => "readonly_type"
  | .unionType => "union_type"
  | .intersectionType => "intersection_type"
  | .objectType => "object_type"
  | .interfaceBody => "interface_body"
  | .functionType => "function_type"
  | .literalType => "literal_type"
  | .arrayType => "array_type"
  | .tupleType => "tuple_type"
  | .typeArguments => "type_arguments"
  | .interfaceDeclaration => "interface_declaration"
  | .typeAliasDeclaration => "type_alias_declaration"
  | .extendsTypeClause => "extends_type_clause"
  | .propertySignature => "property_signature"
  | .methodSignature => "method_signature"
  | .abstractMethodSignature => "abstract_method_signature"
  | .functionSignature => "function_signature"
  | .ambientDeclaration => "ambient_declaration"
  | .exportStatement => "export_statement"
  | .importStatement => "import_statement"
  | .importClause => "import_clause"
  | .namespaceImport => "namespace_import"
  | .namedImports => "named_imports"
  | .importSpecifier => "import_specifier"
  | .namespaceExport => "namespace_export"
  | .exportClause => "export_clause"
  | .exportSpecifier => "export_specifier"
  | .accessibilityModifier => "accessibility_modifier"
  | .importWord => "import"
  | .asyncWord => "async"
  | .getWord => "get"
  | .staticWord => "static"
  | .readonlyWord => "readonly"
  | .defaultWord => "default"
  | .star => "*"
  | .logicalAnd => "&&"
  | .logicalOr => "||"
  | .nullish => "??"
  | .other name => name

/-- The kinds that have a constructor of their own. -/
def known : List Kind :=
  [.program, .statementBlock, .switchCase, .switchDefault, .comment, .functionDeclaration,
   .generatorDeclaration, .functionExpression, .generatorExpression, .arrowFunction,
   .methodDefinition, .functionWord, .classDeclaration, .abstractClassDeclaration,
   .classExpression, .classBody, .classHeritage, .extendsClause, .parenthesized, .nonNull,
   .asExpression, .satisfiesExpression, .sequenceExpression, .typeAssertion, .identifier,
   .thisReference, .newExpression, .callExpression, .awaitExpression, .memberExpression,
   .objectLiteral, .ternaryExpression, .binaryExpression, .assignment, .stringLiteral,
   .stringFragment, .templateString, .numberLiteral, .trueLiteral, .falseLiteral, .nullLiteral,
   .arrayLiteral, .variableDeclarator, .lexicalDeclaration, .variableDeclaration, .pair,
   .shorthandProperty, .spreadElement, .computedPropertyName, .publicFieldDefinition,
   .fieldDefinition, .propertyIdentifier, .privatePropertyIdentifier, .returnStatement,
   .expressionStatement, .annotatedType, .typeIdentifier, .nestedTypeIdentifier, .genericType,
   .predefinedType, .parenthesizedType, .readonlyType, .unionType, .intersectionType,
   .objectType, .interfaceBody, .functionType, .literalType, .arrayType, .tupleType,
   .typeArguments, .interfaceDeclaration, .typeAliasDeclaration, .extendsTypeClause,
   .propertySignature, .methodSignature, .abstractMethodSignature, .functionSignature,
   .ambientDeclaration, .exportStatement, .importStatement, .importClause, .namespaceImport,
   .namedImports, .importSpecifier, .namespaceExport, .exportClause, .exportSpecifier,
   .accessibilityModifier, .importWord, .asyncWord, .getWord, .staticWord, .readonlyWord,
   .defaultWord, .star, .logicalAnd, .logicalOr, .nullish]

def ofName (text : String) : Kind :=
  (known.find? fun kind => kind.name == text).getD (.other text)

@[simp]
theorem name_ofName (text : String) : (ofName text).name = text := by
  unfold ofName
  cases found : known.find? fun kind => kind.name == text with
  | none => rfl
  | some kind => simpa using List.find?_some found

end Kind

/-- The role a child plays for its parent. Only the roles this library asks for are listed. -/
inductive Field where
  | name
  | body
  | value
  | key
  | left
  | right
  | callee
  | constructed
  | object
  | property
  | parameter
  | parameters
  | pattern
  | declaredType
  | returnType
  | typeParameters
  | typeArguments
  | source
  | declaration
  | alias
  | operator
  | consequence
  | alternative
  deriving DecidableEq, Repr, Inhabited

namespace Field

def ofName? : String → Option Field
  | "name" => some .name
  | "body" => some .body
  | "value" => some .value
  | "key" => some .key
  | "left" => some .left
  | "right" => some .right
  | "function" => some .callee
  | "constructor" => some .constructed
  | "object" => some .object
  | "property" => some .property
  | "parameter" => some .parameter
  | "parameters" => some .parameters
  | "pattern" => some .pattern
  | "type" => some .declaredType
  | "return_type" => some .returnType
  | "type_parameters" => some .typeParameters
  | "type_arguments" => some .typeArguments
  | "source" => some .source
  | "declaration" => some .declaration
  | "alias" => some .alias
  | "operator" => some .operator
  | "consequence" => some .consequence
  | "alternative" => some .alternative
  | _ => none

end Field

end PromiseDetection
