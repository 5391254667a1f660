/-!
# Names of pictures: u to z

One entry a name, divided by `|`: the name and the code points of the picture in hexadecimal,
divided by blanks. A tilde behind the name stands for the same picture in each tone of skin.
-/

namespace Archetype.Report.Picture

/-- the pictures whose names start with u to z -/
def namesUToZ : String :=
  "u.s._outlying_islands 1F1FA 1F1F2|u.s._virgin_islands 1F1FB 1F1EE|u5272 1F239|u5408 1F234|
  u55b6 1F23A|u6307 1F22F|u6708 1F237|u6709 1F236|u6e80 1F235|u7121 1F21A|u7533 1F238|u7981 1F232|
  u7a7a 1F233|uganda 1F1FA 1F1EC|ukraine 1F1FA 1F1E6|umbrella 2602|umbrella_on_ground 26F1|
  umbrella_with_rain_drops 2614|unamused 1F612|unamused_face 1F612|underage 1F51E|
  unicorn_face 1F984|united_arab_emirates 1F1E6 1F1EA|united_kingdom 1F1EC 1F1E7|
  united_nations 1F1FA 1F1F3|united_states 1F1FA 1F1F8|unlock 1F513|unlocked 1F513|up 1F199|
  up!_button 1F199|up-down_arrow 2195|up-left_arrow 2196|up-right_arrow 2197|up_arrow 2B06|
  upside-down_face 1F643|upside__down_face 1F643|upwards_button 1F53C|uruguay 1F1FA 1F1FE|
  uzbekistan 1F1FA 1F1FF|v 270C|vampire~ 1F9DB|vanuatu 1F1FB 1F1FA|vatican_city 1F1FB 1F1E6|
  venezuela 1F1FB 1F1EA|vertical_traffic_light 1F6A6|vhs 1F4FC|vibration_mode 1F4F3|
  victory_hand~ 270C|video_camera 1F4F9|video_game 1F3AE|videocassette 1F4FC|vietnam 1F1FB 1F1F3|
  violin 1F3BB|virgo 264D|volcano 1F30B|volleyball 1F3D0|vs 1F19A|vs_button 1F19A|
  vulcan_salute~ 1F596|waffle 1F9C7|wales 1F3F4 E0067 E0062 E0077 E006C E0073 E007F|walking 1F6B6|
  wallis_&_futuna 1F1FC 1F1EB|waning_crescent_moon 1F318|waning_gibbous_moon 1F316|warning 26A0|
  wastebasket 1F5D1|watch 231A|water_buffalo 1F403|water_closet 1F6BE|water_wave 1F30A|
  watermelon 1F349|wave 1F44B|waving_black_flag 1F3F4|waving_hand~ 1F44B|waving_white_flag 1F3F3|
  wavy_dash 3030|waxing_crescent_moon 1F312|waxing_gibbous_moon 1F314|wc 1F6BE|weary 1F629|
  weary_cat_face 1F640|weary_face 1F629|wedding 1F492|weight_lifter 1F3CB|
  western_sahara 1F1EA 1F1ED|whale 1F433|whale2 1F40B|wheel_of_dharma 2638|wheelchair 267F|
  wheelchair_symbol 267F|white-haired_man 1F468 200D 1F9B3|white-haired_woman 1F469 200D 1F9B3|
  white_check_mark 2705|white_circle 26AA|white_exclamation_mark 2755|white_flag 1F3F3|
  white_flower 1F4AE|white_frowning_face 2639|white_hair 1F9B3|white_heart 1F90D|
  white_heavy_check_mark 2705|white_large_square 2B1C|white_medium-small_square 25FD|
  white_medium_small_square 25FD|white_medium_square 25FB|white_medium_star 2B50|
  white_question_mark 2754|white_small_square 25AB|white_square_button 1F533|
  white_sun_behind_cloud 1F325|white_sun_behind_cloud_with_rain 1F326|
  white_sun_with_small_cloud 1F324|wilted_flower 1F940|wind_blowing_face 1F32C|wind_chime 1F390|
  wind_face 1F32C|wine_glass 1F377|wink 1F609|winking_face 1F609|winking_face_with_tongue 1F61C|
  wolf 1F43A|wolf_face 1F43A|woman~ 1F469|woman_artist~ 1F469 200D 1F3A8|
  woman_astronaut~ 1F469 200D 1F680|woman_biking~ 1F6B4 200D 2640 FE0F|
  woman_bouncing_ball~ 26F9 FE0F 200D 2640 FE0F|woman_bowing~ 1F647 200D 2640 FE0F|
  woman_cartwheeling~ 1F938 200D 2640 FE0F|woman_climbing~ 1F9D7 200D 2640 FE0F|
  woman_construction_worker~ 1F477 200D 2640 FE0F|woman_cook~ 1F469 200D 1F373|woman_dancing~ 1F483|
  woman_detective~ 1F575 FE0F 200D 2640 FE0F|woman_elf~ 1F9DD 200D 2640 FE0F|
  woman_facepalming~ 1F926 200D 2640 FE0F|woman_factory_worker~ 1F469 200D 1F3ED|
  woman_fairy~ 1F9DA 200D 2640 FE0F|woman_farmer~ 1F469 200D 1F33E|
  woman_firefighter~ 1F469 200D 1F692|woman_frowning~ 1F64D 200D 2640 FE0F|
  woman_genie 1F9DE 200D 2640 FE0F|woman_gesturing_no~ 1F645 200D 2640 FE0F|
  woman_gesturing_ok~ 1F646 200D 2640 FE0F|woman_getting_haircut~ 1F487 200D 2640 FE0F|
  woman_getting_massage~ 1F486 200D 2640 FE0F|woman_golfing~ 1F3CC FE0F 200D 2640 FE0F|
  woman_guard~ 1F482 200D 2640 FE0F|woman_health_worker~ 1F469 200D 2695 FE0F|
  woman_in_lotus_position~ 1F9D8 200D 2640 FE0F|woman_in_manual_wheelchair 1F469 200D 1F9BD|
  woman_in_motorized_wheelchair 1F469 200D 1F9BC|woman_in_steamy_room~ 1F9D6 200D 2640 FE0F|
  woman_judge~ 1F469 200D 2696 FE0F|woman_juggling~ 1F939 200D 2640 FE0F|
  woman_lifting_weights~ 1F3CB FE0F 200D 2640 FE0F|woman_mage~ 1F9D9 200D 2640 FE0F|
  woman_mechanic~ 1F469 200D 1F527|woman_mountain_biking~ 1F6B5 200D 2640 FE0F|
  woman_office_worker~ 1F469 200D 1F4BC|woman_pilot~ 1F469 200D 2708 FE0F|
  woman_playing_handball~ 1F93E 200D 2640 FE0F|woman_playing_water_polo~ 1F93D 200D 2640 FE0F|
  woman_police_officer~ 1F46E 200D 2640 FE0F|woman_pouting~ 1F64E 200D 2640 FE0F|
  woman_raising_hand~ 1F64B 200D 2640 FE0F|woman_rowing_boat~ 1F6A3 200D 2640 FE0F|
  woman_running~ 1F3C3 200D 2640 FE0F|woman_scientist~ 1F469 200D 1F52C|
  woman_shrugging~ 1F937 200D 2640 FE0F|woman_singer~ 1F469 200D 1F3A4|
  woman_student~ 1F469 200D 1F393|woman_surfing~ 1F3C4 200D 2640 FE0F|
  woman_swimming~ 1F3CA 200D 2640 FE0F|woman_teacher~ 1F469 200D 1F3EB|
  woman_technologist~ 1F469 200D 1F4BB|woman_tipping_hand~ 1F481 200D 2640 FE0F|
  woman_vampire~ 1F9DB 200D 2640 FE0F|woman_walking~ 1F6B6 200D 2640 FE0F|
  woman_wearing_turban~ 1F473 200D 2640 FE0F|woman_with_headscarf~ 1F9D5|
  woman_with_probing_cane 1F469 200D 1F9AF|woman_zombie 1F9DF 200D 2640 FE0F|womans_clothes 1F45A|
  womans_hat 1F452|woman’s_boot 1F462|woman’s_clothes 1F45A|woman’s_hat 1F452|woman’s_sandal 1F461|
  women_with_bunny_ears 1F46F 200D 2640 FE0F|women_wrestling 1F93C 200D 2640 FE0F|womens 1F6BA|
  women’s_room 1F6BA|woozy_face 1F974|world_map 1F5FA|worried 1F61F|worried_face 1F61F|
  wrapped_gift 1F381|wrench 1F527|writing_hand~ 270D|x 274C|yarn 1F9F6|yawning_face 1F971|
  yellow_circle 1F7E1|yellow_heart 1F49B|yellow_square 1F7E8|yemen 1F1FE 1F1EA|yen 1F4B4|
  yen_banknote 1F4B4|yin_yang 262F|yo-yo 1FA80|yum 1F60B|zambia 1F1FF 1F1F2|zany_face 1F92A|
  zap 26A1|zebra 1F993|zero 30 FE0F 20E3|zimbabwe 1F1FF 1F1FC|zipper-mouth_face 1F910|
  zipper__mouth_face 1F910|zombie 1F9DF|zzz 1F4A4"

end Archetype.Report.Picture
